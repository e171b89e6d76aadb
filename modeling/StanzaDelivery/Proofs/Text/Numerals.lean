import StanzaDelivery.Proofs.Text.Trimming
import StanzaDelivery.Text.Word

/-! Decimal numerals. A text is read as a number exactly if it consists of decimal digits, of which
there is at least one; it is read as a word exactly if it is the numeral of a word, with one plus
sign in front of it or none. -/

namespace StanzaDelivery.Text

variable {cs : List Char} {c : Char} {m n : Nat} {word : UInt64}

/-- Decimal digits, at least one of them, and the number that they stand for. -/
structure IsNumeral (digits : List Char) (n : Nat) : Prop where
  nonempty : digits ≠ []
  decimal : ∀ d ∈ digits, d.isDigit = true
  value : Nat.ofDigitChars 10 digits 0 = n

theorem isDigit_iff : c.isDigit = true ↔ '0' ≤ c ∧ c ≤ '9' := by
  simp [Char.isDigit, Char.le_def]

theorem digitValue?_eq (c : Char) :
    digitValue? c = if c.isDigit = true then some (c.toNat - '0'.toNat) else none := by
  simp only [digitValue?, isDigit_iff]

theorem decimalFrom?_eq_some_iff :
    decimalFrom? m cs = some n ↔
      (∀ d ∈ cs, d.isDigit = true) ∧ Nat.ofDigitChars 10 cs m = n := by
  induction cs generalizing m with
  | nil => simp [decimalFrom?]
  | cons c cs ih =>
    rw [decimalFrom?, digitValue?_eq, Nat.ofDigitChars_cons]
    by_cases digit : c.isDigit = true
    · simp [digit, ih]
    · simp [digit]

theorem decimal?_eq_some_iff : decimal? cs = some n ↔ IsNumeral cs n := by
  cases cs with
  | nil => exact ⟨nofun, fun numeral => absurd rfl numeral.nonempty⟩
  | cons c cs =>
    rw [decimal?, decimalFrom?_eq_some_iff]
    exact ⟨fun ⟨decimal, value⟩ => ⟨List.cons_ne_nil _ _, decimal, value⟩,
      fun numeral => ⟨numeral.decimal, numeral.value⟩⟩

theorem isNumeral_toDigits (n : Nat) : IsNumeral (Nat.toDigits 10 n) n where
  nonempty := Nat.toDigits_ne_nil
  decimal _ := Nat.isDigit_of_mem_toDigits (by decide) (by decide)
  value := Nat.ofDigitChars_ten_toDigits

theorem isBlank_of_isDigit (digit : c.isDigit = true) : isBlank c = false := by
  have range : '0'.toNat ≤ c.toNat ∧ c.toNat ≤ '9'.toNat := isDigit_iff.1 digit
  simp [isBlank] at range ⊢
  omega

theorem IsNumeral.trimsTo (numeral : IsNumeral cs n) : TrimsTo cs cs where
  around := ⟨[], [], by simp, nofun, nofun⟩
  first d head := isBlank_of_isDigit (numeral.decimal d (List.mem_of_mem_head? head))
  last d last := isBlank_of_isDigit (numeral.decimal d (List.mem_of_mem_getLast? last))

theorem IsNumeral.isDigit_of_append (numeral : IsNumeral cs n) {rest after : List Char}
    (same : cs ++ rest = c :: after) : c.isDigit = true := by
  cases cs with
  | nil => exact absurd rfl numeral.nonempty
  | cons d cs =>
    cases same
    exact numeral.decimal _ List.mem_cons_self

theorem wordOfNat?_eq_some_iff : wordOfNat? n = some word ↔ word.toNat = n := by
  constructor
  · intro made
    unfold wordOfNat? at made
    split at made
    next fits =>
      cases made
      exact UInt64.toNat_ofNat_of_lt' fits
    next => cases made
  · rintro rfl
    exact wordOfNat?_toNat word

inductive IsWord : List Char → UInt64 → Prop
  | plain {digits : List Char} {word : UInt64} (numeral : IsNumeral digits word.toNat) :
      IsWord digits word
  | signed {digits : List Char} {word : UInt64} (numeral : IsNumeral digits word.toNat) :
      IsWord ('+' :: digits) word

theorem decimal?_bind_wordOfNat? :
    (decimal? cs).bind wordOfNat? = some word ↔ IsNumeral cs word.toNat := by
  simp only [Option.bind_eq_some_iff, decimal?_eq_some_iff, wordOfNat?_eq_some_iff]
  constructor
  · rintro ⟨_, numeral, rfl⟩
    exact numeral
  · intro numeral
    exact ⟨_, numeral, rfl⟩

theorem word?_eq_some_iff : word? cs = some word ↔ IsWord cs word := by
  constructor
  · intro read
    unfold word? at read
    split at read
    next => exact .signed (decimal?_bind_wordOfNat?.1 read)
    next => exact .plain (decimal?_bind_wordOfNat?.1 read)
  · intro written
    cases written with
    | signed numeral => exact decimal?_bind_wordOfNat?.2 numeral
    | plain numeral =>
      unfold word?
      split
      next rest => exact absurd (numeral.decimal '+' (List.mem_cons_self ..)) (by decide)
      next => exact decimal?_bind_wordOfNat?.2 numeral

end StanzaDelivery.Text
