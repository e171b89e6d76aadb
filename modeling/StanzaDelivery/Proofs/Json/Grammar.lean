import StanzaDelivery.Json.Writer
import StanzaDelivery.Proofs.Json.Numbers
import StanzaDelivery.Proofs.Json.Strings

/-! The grammar of JSON documents. A document spells a value, with blanks around it and around all
that it consists of. Whatever a document spells is read from it, however deep it is nested, and
every value is spelled by what is written for it. -/

namespace StanzaDelivery.Json

variable {text rest before after between : List Char} {v : Value} {name : Option String}

def IsBlank (cs : List Char) : Prop := ∀ c ∈ cs, c ∈ [' ', '\n', '\t', '\r']

/-- What the grammar has spellings for. Items and members are those between two brackets, of which
there is at least one. -/
inductive Phrase
  | value (v : Value)
  | items (items : List Value)
  | member (member : Member)
  | members (members : List Member)

inductive Spelled : List Char → Phrase → Prop
  | null : Spelled ['n', 'u', 'l', 'l'] (.value .null)
  | yes : Spelled ['t', 'r', 'u', 'e'] (.value (.bool true))
  | no : Spelled ['f', 'a', 'l', 's', 'e'] (.value (.bool false))
  | number {text : List Char} {v : Value} (number : IsNumber text v) : Spelled text (.value v)
  | string {text : List Char} {name : Option String} (string : IsString text name) :
      Spelled text (.value (textValue name))
  | emptyArray {between : List Char} (blank : IsBlank between) :
      Spelled ('[' :: (between ++ [']'])) (.value (.array []))
  | array {text : List Char} {items : List Value} (inside : Spelled text (.items items)) :
      Spelled ('[' :: (text ++ [']'])) (.value (.array items))
  | emptyObject {between : List Char} (blank : IsBlank between) :
      Spelled ('\x7b' :: (between ++ ['\x7d'])) (.value (.object []))
  | object {text : List Char} {members : List Member} (inside : Spelled text (.members members)) :
      Spelled ('\x7b' :: (text ++ ['\x7d'])) (.value (.object members))
  | padded {before text after : List Char} {v : Value} (front : IsBlank before)
      (value : Spelled text (.value v)) (back : IsBlank after) :
      Spelled (before ++ (text ++ after)) (.value v)
  | item {text : List Char} {v : Value} (last : Spelled text (.value v)) :
      Spelled text (.items [v])
  | items {text rest : List Char} {v : Value} {items : List Value}
      (first : Spelled text (.value v)) (more : Spelled rest (.items items)) :
      Spelled (text ++ ',' :: rest) (.items (v :: items))
  | named {before between text spelled : List Char} {name : Option String} {v : Value}
      (front : IsBlank before) (string : IsString spelled name) (back : IsBlank between)
      (value : Spelled text (.value v)) :
      Spelled (before ++ (spelled ++ (between ++ ':' :: text))) (.member (name, v))
  | member {text : List Char} {member : Member} (last : Spelled text (.member member)) :
      Spelled text (.members [member])
  | members {text rest : List Char} {member : Member} {members : List Member}
      (first : Spelled text (.member member)) (more : Spelled rest (.members members)) :
      Spelled (text ++ ',' :: rest) (.members (member :: members))

theorem isBlank_nil : IsBlank [] := nofun

theorem isSpace_iff {c : Char} : isSpace c = true ↔ c ∈ [' ', '\n', '\t', '\r'] := by
  simp [isSpace, or_assoc]

theorem skipSpace_append (blank : IsBlank before) (rest : List Char) :
    skipSpace (before ++ rest) = skipSpace rest :=
  List.dropWhile_append_of_pos fun c member => isSpace_iff.2 (blank c member)

theorem skipSpace_cons {c : Char} (visible : isSpace c = false) (rest : List Char) :
    skipSpace (c :: rest) = c :: rest := by
  rw [skipSpace, List.dropWhile_cons_of_neg (by simp [visible])]

theorem ends_append (blank : IsBlank after) (ends : Ends rest) : Ends (after ++ rest) := by
  cases after with
  | nil => exact ends
  | cons c after =>
    rintro _ ⟨⟩
    exact Text.of_mem (p := fun c => c.isDigit = false ∧ c ≠ '.' ∧ c ≠ 'e' ∧ c ≠ 'E') (by decide)
      (blank c List.mem_cons_self)

theorem ends_of_mark {c : Char} (mark : c ∈ [',', ']', '\x7d']) : Ends (c :: rest) := by
  rintro _ ⟨⟩
  exact Text.of_mem (p := fun c => c.isDigit = false ∧ c ≠ '.' ∧ c ≠ 'e' ∧ c ≠ 'E') (by decide) mark

theorem readValue_of_skipSpace {fuel : Nat} (same : skipSpace text = skipSpace rest) :
    readValue fuel text = readValue fuel rest := by
  cases fuel with
  | zero => rw [readValue, readValue]
  | succ fuel => rw [readValue, readValue, same]

theorem IsNumber.first (number : IsNumber text v) :
    ∃ c tail, text = c :: tail ∧ (c = '-' ∨ c.isDigit = true) := by
  have digit : ∀ (digits rest : List Char) (n : Nat), IsWhole digits n →
      ∃ c tail, digits ++ rest = c :: tail ∧ (c = '-' ∨ c.isDigit = true) := by
    intro digits rest n whole
    obtain ⟨c, tail, rfl⟩ := List.exists_cons_of_ne_nil whole.numeral.nonempty
    exact ⟨c, tail ++ rest, rfl, .inr (whole.numeral.decimal c List.mem_cons_self)⟩
  cases number with
  | natural whole =>
    have first := digit text [] _ whole
    rwa [List.append_nil] at first
  | @other sign digits fraction exponent n signed whole part scale more =>
    simp only [List.mem_cons, List.not_mem_nil, or_false] at signed
    rcases signed with rfl | rfl
    · exact digit digits (fraction ++ exponent) n whole
    · exact ⟨'-', _, rfl, .inl rfl⟩

theorem not_mem_of_first {c : Char} (first : c = '-' ∨ c.isDigit = true) :
    c ∉ [' ', '\n', '\t', '\r', '[', ']', '\x7b', '\x7d', '"', 'n', 't', 'f'] := by
  intro listed
  exact Text.of_mem (p := fun c => ¬(c = '-' ∨ c.isDigit = true)) (by decide) listed first

theorem readValue_number (number : IsNumber text v) (fuel : Nat) (rest : List Char) :
    readValue (fuel + 1) (text ++ rest) = readNumber (text ++ rest) := by
  obtain ⟨c, tail, rfl, first⟩ := number.first
  have other := not_mem_of_first first
  simp only [List.mem_cons, List.not_mem_nil, or_false, not_or] at other
  have visible : isSpace c = false := by simp [isSpace, other]
  rw [List.cons_append, readValue, skipSpace_cons visible]
  split
  all_goals first
    | rfl
    | simp_all

theorem readValue_string {spelled : List Char} (string : IsString spelled name) (fuel : Nat)
    (rest : List Char) :
    readValue (fuel + 1) (spelled ++ rest) = some (textValue name, rest) := by
  obtain ⟨body, rfl, read⟩ := string.readText rest
  change (readText (body ++ rest)).map _ = _
  rw [read]
  rfl

theorem readValue_emptyArray {fuel : Nat} (closed : skipSpace text = ']' :: rest) :
    readValue (fuel + 1) ('[' :: text) = some (.array [], rest) := by
  rw [readValue, skipSpace_cons (by decide)]
  simp only [closed]

theorem readValue_emptyObject {fuel : Nat} (closed : skipSpace text = '\x7d' :: rest) :
    readValue (fuel + 1) ('\x7b' :: text) = some (.object [], rest) := by
  rw [readValue, skipSpace_cons (by decide)]
  simp only [closed]

theorem readValue_array {fuel : Nat} (inside : (skipSpace text).head? ≠ some ']') :
    readValue (fuel + 1) ('[' :: text) =
      (readItems fuel text).map fun read => (.array read.1, read.2) := by
  rw [readValue, skipSpace_cons (by decide)]
  simp only
  split
  next closed => exact absurd (by rw [closed]; rfl) inside
  next => rfl

theorem readValue_object {fuel : Nat} (inside : (skipSpace text).head? ≠ some '\x7d') :
    readValue (fuel + 1) ('\x7b' :: text) =
      (readMembers fuel text).map fun read => (.object read.1, read.2) := by
  rw [readValue, skipSpace_cons (by decide)]
  simp only
  split
  next closed => exact absurd (by rw [closed]; rfl) inside
  next => rfl

theorem Spelled.first {phrase : Phrase} (spelled : Spelled text phrase) :
    ∃ c, c ≠ ']' ∧ c ≠ '\x7d' ∧ ∀ rest, (skipSpace (text ++ rest)).head? = some c := by
  induction spelled with
  | null => exact ⟨'n', by decide, by decide, fun _ => rfl⟩
  | yes => exact ⟨'t', by decide, by decide, fun _ => rfl⟩
  | no => exact ⟨'f', by decide, by decide, fun _ => rfl⟩
  | number number =>
    obtain ⟨c, tail, rfl, first⟩ := number.first
    have other := not_mem_of_first first
    simp only [List.mem_cons, List.not_mem_nil, or_false, not_or] at other
    have visible : isSpace c = false := by simp [isSpace, other]
    refine ⟨c, other.2.2.2.2.2.1, other.2.2.2.2.2.2.2.1, fun rest => ?_⟩
    rw [List.cons_append, skipSpace_cons visible]
    rfl
  | string string =>
    obtain ⟨body, rfl, _⟩ := string.readText []
    exact ⟨'"', by decide, by decide, fun _ => rfl⟩
  | emptyArray blank => exact ⟨'[', by decide, by decide, fun _ => rfl⟩
  | array inside => exact ⟨'[', by decide, by decide, fun _ => rfl⟩
  | emptyObject blank => exact ⟨'\x7b', by decide, by decide, fun _ => rfl⟩
  | object inside => exact ⟨'\x7b', by decide, by decide, fun _ => rfl⟩
  | padded front value back ih =>
    obtain ⟨c, bracket, brace, head⟩ := ih
    refine ⟨c, bracket, brace, fun rest => ?_⟩
    rw [List.append_assoc, List.append_assoc, skipSpace_append front, head]
  | item last ih => exact ih
  | items first more ih =>
    obtain ⟨c, bracket, brace, head⟩ := ih
    refine ⟨c, bracket, brace, fun rest => ?_⟩
    rw [List.append_assoc, head]
  | named front string back value ih =>
    obtain ⟨body, rfl, _⟩ := string.readText []
    refine ⟨'"', by decide, by decide, fun rest => ?_⟩
    rw [List.append_assoc, skipSpace_append front]
    rfl
  | member last ih => exact ih
  | members first more ih =>
    obtain ⟨c, bracket, brace, head⟩ := ih
    refine ⟨c, bracket, brace, fun rest => ?_⟩
    rw [List.append_assoc, head]

theorem Spelled.length_pos {phrase : Phrase} (spelled : Spelled text phrase) : 0 < text.length := by
  obtain ⟨c, _, _, head⟩ := spelled.first
  apply List.length_pos_iff.2
  rintro rfl
  cases head []

/-- The reader takes the text for this phrase, whatever is behind it, up to blanks. -/
def Reads (fuel : Nat) (text : List Char) : Phrase → Prop
  | .value v => ∀ rest, Ends rest →
      ∃ left, readValue fuel (text ++ rest) = some (v, left) ∧ skipSpace left = skipSpace rest
  | .items items => ∀ rest, readItems fuel (text ++ ']' :: rest) = some (items, rest)
  | .member member => ∀ rest, Ends rest →
      ∃ left, readMember fuel (text ++ rest) = some (member, left) ∧
        skipSpace left = skipSpace rest
  | .members members => ∀ rest, readMembers fuel (text ++ '\x7d' :: rest) = some (members, rest)

namespace Reads

variable {fuel : Nat} {vs : List Value} {m : Member} {ms : List Member}

theorem value (positive : 0 < fuel)
    (step : ∀ fuel rest, Ends rest → readValue (fuel + 1) (text ++ rest) = some (v, rest)) :
    Reads fuel text (.value v) := by
  obtain ⟨fuel, rfl⟩ := Nat.exists_eq_add_one.2 positive
  exact fun rest ends => ⟨rest, step fuel rest ends, rfl⟩

theorem array (inside : Spelled text (.items vs)) (read : Reads fuel text (.items vs)) :
    Reads (fuel + 1) ('[' :: (text ++ [']'])) (.value (.array vs)) := by
  intro rest ends
  obtain ⟨c, other, _, head⟩ := inside.first
  refine ⟨rest, ?_, rfl⟩
  rw [List.cons_append, List.append_assoc, List.singleton_append, readValue_array, read]
  · rfl
  · rw [head]
    simp [other]

theorem object (inside : Spelled text (.members ms))
    (read : Reads fuel text (.members ms)) :
    Reads (fuel + 1) ('\x7b' :: (text ++ ['\x7d'])) (.value (.object ms)) := by
  intro rest ends
  obtain ⟨c, _, other, head⟩ := inside.first
  refine ⟨rest, ?_, rfl⟩
  rw [List.cons_append, List.append_assoc, List.singleton_append, readValue_object, read]
  · rfl
  · rw [head]
    simp [other]

theorem padded (front : IsBlank before) (read : Reads fuel text (.value v)) (back : IsBlank after) :
    Reads fuel (before ++ (text ++ after)) (.value v) := by
  intro rest ends
  obtain ⟨left, read, same⟩ := read (after ++ rest) (ends_append back ends)
  refine ⟨left, ?_, same.trans (skipSpace_append back rest)⟩
  rw [List.append_assoc, List.append_assoc, readValue_of_skipSpace (skipSpace_append front _), read]

theorem item (last : Reads fuel text (.value v)) : Reads (fuel + 1) text (.items [v]) := by
  intro rest
  obtain ⟨left, read, same⟩ := last (']' :: rest) (ends_of_mark (by decide))
  rw [readItems, read]
  simp only [same]
  rfl

theorem items (first : Reads fuel text (.value v)) (more : Reads fuel after (.items vs)) :
    Reads (fuel + 1) (text ++ ',' :: after) (.items (v :: vs)) := by
  intro rest
  obtain ⟨left, read, same⟩ := first (',' :: (after ++ ']' :: rest)) (ends_of_mark (by decide))
  rw [List.append_assoc, List.cons_append, readItems, read]
  simp only [same]
  change (readItems fuel (after ++ ']' :: rest)).map _ = _
  rw [more]
  rfl

theorem named {spelled : List Char} (front : IsBlank before) (string : IsString spelled name)
    (back : IsBlank between) (value : Reads fuel text (.value v)) :
    Reads (fuel + 1) (before ++ (spelled ++ (between ++ ':' :: text))) (.member (name, v)) := by
  intro rest ends
  obtain ⟨left, read, same⟩ := value rest ends
  obtain ⟨body, rfl, opened⟩ := string.readText (between ++ ':' :: (text ++ rest))
  refine ⟨left, ?_, same⟩
  simp only [List.append_assoc, List.cons_append]
  rw [readMember, skipSpace_append front, skipSpace_cons (by decide)]
  simp only [opened, skipSpace_append back]
  change (readValue fuel (text ++ rest)).map _ = _
  rw [read]
  rfl

theorem member (last : Reads fuel text (.member m)) :
    Reads (fuel + 1) text (.members [m]) := by
  intro rest
  obtain ⟨left, read, same⟩ := last ('\x7d' :: rest) (ends_of_mark (by decide))
  rw [readMembers, read]
  simp only [same]
  rfl

theorem members (first : Reads fuel text (.member m))
    (more : Reads fuel after (.members ms)) :
    Reads (fuel + 1) (text ++ ',' :: after) (.members (m :: ms)) := by
  intro rest
  obtain ⟨left, read, same⟩ := first (',' :: (after ++ '\x7d' :: rest)) (ends_of_mark (by decide))
  rw [List.append_assoc, List.cons_append, readMembers, read]
  simp only [same]
  change (readMembers fuel (after ++ '\x7d' :: rest)).map _ = _
  rw [more]
  rfl

end Reads

/-- The units of fuel that a phrase takes beyond those for its length. -/
def Phrase.surplus : Phrase → Nat
  | .value _ => 0
  | .items _ => 1
  | .member _ => 0
  | .members _ => 1

/-- A phrase is read with fuel for its length: the brackets around items and members, and the comma
or the name in front of one, pay for the steps that go deeper. -/
theorem Spelled.reads {phrase : Phrase} (spelled : Spelled text phrase) {fuel : Nat}
    (enough : text.length + phrase.surplus ≤ fuel) : Reads fuel text phrase := by
  have positive : 0 < fuel := by
    have := spelled.length_pos
    omega
  induction spelled generalizing fuel with
  | null => exact .value positive fun _ _ _ => rfl
  | yes => exact .value positive fun _ _ _ => rfl
  | no => exact .value positive fun _ _ _ => rfl
  | number number =>
    refine .value positive fun fuel rest ends => ?_
    rw [readValue_number number, number.readNumber ends]
  | string string => exact .value positive fun fuel rest _ => readValue_string string fuel rest
  | emptyArray blank =>
    refine .value positive fun fuel rest _ => readValue_emptyArray ?_
    change skipSpace ((_ ++ [']']) ++ rest) = _
    rw [List.append_assoc, skipSpace_append blank]
    rfl
  | array inside ih =>
    obtain ⟨fuel, rfl⟩ := Nat.exists_eq_add_one.2 positive
    have pays := inside.length_pos
    simp only [List.length_cons, List.length_append, List.length_nil, Phrase.surplus] at enough ih
    exact .array inside (ih (by omega) (by omega))
  | emptyObject blank =>
    refine .value positive fun fuel rest _ => readValue_emptyObject ?_
    change skipSpace ((_ ++ ['\x7d']) ++ rest) = _
    rw [List.append_assoc, skipSpace_append blank]
    rfl
  | object inside ih =>
    obtain ⟨fuel, rfl⟩ := Nat.exists_eq_add_one.2 positive
    simp only [List.length_cons, List.length_append, List.length_nil, Phrase.surplus] at enough ih
    exact .object inside (ih (by omega) (by omega))
  | padded front value back ih =>
    simp only [List.length_append, Phrase.surplus] at enough ih
    exact .padded front (ih (by omega) positive) back
  | item last ih =>
    obtain ⟨fuel, rfl⟩ := Nat.exists_eq_add_one.2 positive
    have pays := last.length_pos
    simp only [Phrase.surplus] at enough ih
    exact .item (ih (by omega) (by omega))
  | items first more ih ihs =>
    obtain ⟨fuel, rfl⟩ := Nat.exists_eq_add_one.2 positive
    have pays := first.length_pos
    simp only [List.length_append, List.length_cons, Phrase.surplus] at enough ih ihs
    exact .items (ih (by omega) (by omega)) (ihs (by omega) (by omega))
  | named front string back value ih =>
    obtain ⟨fuel, rfl⟩ := Nat.exists_eq_add_one.2 positive
    have pays := value.length_pos
    simp only [List.length_append, List.length_cons, Phrase.surplus] at enough ih
    exact .named front string back (ih (by omega) (by omega))
  | member last ih =>
    obtain ⟨fuel, rfl⟩ := Nat.exists_eq_add_one.2 positive
    have pays := last.length_pos
    simp only [Phrase.surplus] at enough ih
    exact .member (ih (by omega) (by omega))
  | members first more ih ihs =>
    obtain ⟨fuel, rfl⟩ := Nat.exists_eq_add_one.2 positive
    have pays := first.length_pos
    simp only [List.length_append, List.length_cons, Phrase.surplus] at enough ih ihs
    exact .members (ih (by omega) (by omega)) (ihs (by omega) (by omega))

theorem read_of_spelled (spelled : Spelled text (.value v)) : read text = some v := by
  have enough : text.length + (Phrase.value v).surplus ≤ 2 * text.length + 1 := by
    simp only [Phrase.surplus]
    omega
  obtain ⟨left, read, same⟩ := spelled.reads enough [] nofun
  rw [List.append_nil] at read
  have nothing : skipSpace left = [] := same
  simp only [Json.read, read, nothing, if_true]

theorem isString_writeName (name : Option String) : IsString (writeName name) name := by
  cases name with
  | some name => exact isString_writeText name
  | none =>
    have half : PieceSpelled "\\ud800".toList (.unit 0xD800) :=
      .unit (h := 13) (i := 8) (j := 0) (k := 0) (by decide) (by decide) (by decide) (by decide)
    refine .unpaired (.cons half .nil) fun text joins => ?_
    have alone := joins.joinPieces_eq
    cases alone

theorem spelled_named (name : Option String) (value : Spelled text (.value v)) :
    Spelled (writeName name ++ ':' :: text) (.member (name, v)) :=
  .named isBlank_nil (isString_writeName name) isBlank_nil value

mutual

theorem spelled_write : (v : Value) → Spelled (write v) (.value v)
  | .null => .null
  | .bool true => .yes
  | .bool false => .no
  | .natural n => .number (.natural (isWhole_toDigits n))
  | .otherNumber => .number (.other (show ['-'] ∈ [[], ['-']] by decide) (isWhole_toDigits 1) .none
      .none (.inl (by decide)))
  | .text s => .string (isString_writeText s)
  | .unpairedText => .string (isString_writeName none)
  | .array [] => .emptyArray isBlank_nil
  | .array (v :: vs) => .array (spelled_writeItems (v :: vs) nofun)
  | .object [] => .emptyObject isBlank_nil
  | .object (m :: ms) => .object (spelled_writeMembers (m :: ms) nofun)

theorem spelled_writeItems : (vs : List Value) → vs ≠ [] →
    Spelled (joined (writeItems vs)) (.items vs)
  | [], empty => absurd rfl empty
  | [v], _ => .item (spelled_write v)
  | v :: w :: rest, _ => .items (spelled_write v) (spelled_writeItems (w :: rest) nofun)

theorem spelled_writeMembers : (ms : List (Option String × Value)) → ms ≠ [] →
    Spelled (joined (writeMembers ms)) (.members ms)
  | [], empty => absurd rfl empty
  | [(name, v)], _ => .member (spelled_named name (spelled_write v))
  | (name, v) :: m :: rest, _ =>
    .members (spelled_named name (spelled_write v)) (spelled_writeMembers (m :: rest) nofun)

end

theorem read_write (v : Value) : read (write v) = some v := read_of_spelled (spelled_write v)

end StanzaDelivery.Json
