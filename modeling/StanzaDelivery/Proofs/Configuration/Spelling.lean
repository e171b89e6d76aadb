import StanzaDelivery.Configuration.Variables
import StanzaDelivery.Proofs.Text.Characters
import StanzaDelivery.Proofs.Text.Numerals
import StanzaDelivery.Proofs.Text.Trimming

/-! What a number and a switch may be written as in a variable. Blanks around them do not count.
A number is the numeral of a word, with or without a plus sign, and a switch is one of nine words,
in capitals or not. For these words it makes no difference how characters outside ASCII are put
into small letters. -/

namespace StanzaDelivery.Configuration

open Text

/-- The text is a numeral of the number, but for a plus sign and the blanks around it. -/
def IsNumber (text : String) (n : UInt64) : Prop :=
  ∃ core, TrimsTo text.toList core ∧ IsWord core n

theorem word?_eq_some_iff {text : String} {n : UInt64} :
    word? text = some n ↔ IsNumber text n := by
  rw [word?, Text.word?_eq_some_iff]
  constructor
  · exact fun written => ⟨_, trimsTo_trim _, written⟩
  · rintro ⟨core, trims, written⟩
    rwa [trims.trim_eq]

/-- A way to put texts into small letters. In ASCII it gives each capital its small letter. Of
other texts it is told only that they do not become ASCII, unless they come to hold a `k`, which
is the small form of one more character. -/
structure SmallForms where
  of : List Char → List Char
  ascii : ∀ cs, (∀ c ∈ cs, c.toNat < 0x80) → of cs = cs.map Char.toLower
  beyond : ∀ cs, (∃ c ∈ cs, 0x80 ≤ c.toNat) → ∃ d ∈ of cs, 0x80 ≤ d.toNat ∨ d = 'k'

theorem toLower_of_beyond {c : Char} (outside : 0x80 ≤ c.toNat) : c.toLower = c := by
  refine dif_neg ?_
  rintro ⟨_, capital⟩
  have bound : c.toNat ≤ 'Z'.toNat := capital
  exact absurd (Nat.le_trans outside bound) (by decide)

theorem SmallForms.of_eq_iff (small : SmallForms) {cs word : List Char}
    (plain : ∀ c ∈ word, c.toNat < 0x80 ∧ c ≠ 'k') :
    small.of cs = word ↔ cs.map Char.toLower = word := by
  by_cases inside : ∀ c ∈ cs, c.toNat < 0x80
  · rw [small.ascii cs inside]
  · simp only [not_forall, Nat.not_lt, exists_prop] at inside
    obtain ⟨c, member, outside⟩ := inside
    constructor
    · rintro rfl
      obtain ⟨d, there, odd⟩ := small.beyond cs ⟨c, member, outside⟩
      obtain ⟨small, other⟩ := plain d there
      rcases odd with far | kay
      · omega
      · exact absurd kay other
    · rintro rfl
      have here := (plain c.toLower (List.mem_map_of_mem member)).1
      rw [toLower_of_beyond outside] at here
      omega

def switchWords (on : Bool) : List String := if on then switchedOn else switchedOff

def IsSwitch (small : SmallForms) (text : String) (on : Bool) : Prop :=
  ∃ core, TrimsTo text.toList core ∧ String.ofList (small.of core) ∈ switchWords on

theorem plain_of_mem_switchWords {on : Bool} {word : String} (known : word ∈ switchWords on) :
    ∀ c ∈ word.toList, c.toNat < 0x80 ∧ c ≠ 'k' := by
  have all : ∀ on, ∀ word ∈ switchWords on,
      word.toList.all (fun c => decide (c.toNat < 0x80 ∧ c ≠ 'k')) = true := by decide
  exact fun _ => of_mem (all on word known)

theorem SmallForms.mem_switchWords_iff (small : SmallForms) {cs : List Char} {on : Bool} :
    String.ofList (small.of cs) ∈ switchWords on ↔
      String.ofList (cs.map Char.toLower) ∈ switchWords on := by
  have agree : ∀ word ∈ switchWords on,
      String.ofList (small.of cs) = word ↔ String.ofList (cs.map Char.toLower) = word := by
    intro word known
    have same : small.of cs = word.toList ↔ cs.map Char.toLower = word.toList :=
      small.of_eq_iff (plain_of_mem_switchWords known)
    simpa only [← String.toList_inj, String.toList_ofList] using same
  constructor
  · intro known
    rwa [(agree _ known).1 rfl]
  · intro known
    rwa [(agree _ known).2 rfl]

theorem not_mem_switchedOff {word : String} (on : word ∈ switchedOn) : word ∉ switchedOff := by
  have apart : ∀ word ∈ switchedOn, word ∉ switchedOff := by decide
  exact apart word on

theorem switch?_eq_some_iff (small : SmallForms) {text : String} {on : Bool} :
    switch? text = some on ↔ IsSwitch small text on := by
  have read : IsSwitch small text on ↔
      String.ofList ((trim text.toList).map Char.toLower) ∈ switchWords on := by
    rw [← small.mem_switchWords_iff]
    constructor
    · rintro ⟨core, trims, known⟩
      rwa [trims.trim_eq]
    · exact fun known => ⟨_, trimsTo_trim _, known⟩
  rw [read, switch?]
  generalize String.ofList ((trim text.toList).map Char.toLower) = word
  cases on with
  | true => by_cases known : word ∈ switchedOn <;> simp [switchWords, known]
  | false =>
    by_cases known : word ∈ switchedOn
    · simp [switchWords, known, not_mem_switchedOff known]
    · simp [switchWords, known]

end StanzaDelivery.Configuration
