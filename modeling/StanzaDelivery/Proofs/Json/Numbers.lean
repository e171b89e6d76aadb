import StanzaDelivery.Json.Reader
import StanzaDelivery.Proofs.Text.Numerals

/-! Numbers of JSON documents. A number is whole digits without a leading zero, perhaps with a
minus sign in front, a fraction, or an exponent. It is read up to its end, and it is the natural
number of its digits if there is nothing but these. What comes behind it must not look like more
of it. -/

namespace StanzaDelivery.Json

open Text

variable {digits fraction exponent rest : List Char} {n : Nat}

/-- A numeral without a leading zero, unless it is that of zero. -/
structure IsWhole (digits : List Char) (n : Nat) : Prop where
  numeral : IsNumeral digits n
  leading : digits.head? = some '0' → digits = ['0']

inductive IsFraction : List Char → Prop
  | none : IsFraction []
  | digits {digits : List Char} {n : Nat} (numeral : IsNumeral digits n) :
      IsFraction ('.' :: digits)

inductive IsExponent : List Char → Prop
  | none : IsExponent []
  | digits {mark : Char} {sign digits : List Char} {n : Nat} (marked : mark = 'e' ∨ mark = 'E')
      (signed : sign ∈ [[], ['+'], ['-']]) (numeral : IsNumeral digits n) :
      IsExponent (mark :: (sign ++ digits))

inductive IsNumber : List Char → Value → Prop
  | natural {digits : List Char} {n : Nat} (whole : IsWhole digits n) : IsNumber digits (.natural n)
  | other {sign digits fraction exponent : List Char} {n : Nat} (signed : sign ∈ [[], ['-']])
      (whole : IsWhole digits n) (part : IsFraction fraction) (scale : IsExponent exponent)
      (more : sign ≠ [] ∨ fraction ≠ [] ∨ exponent ≠ []) :
      IsNumber (sign ++ (digits ++ (fraction ++ exponent))) .otherNumber

def Ends (rest : List Char) : Prop :=
  ∀ c ∈ rest.head?, c.isDigit = false ∧ c ≠ '.' ∧ c ≠ 'e' ∧ c ≠ 'E'

def EndsDigits (rest : List Char) : Prop := ∀ c ∈ rest.head?, c.isDigit = false

theorem Ends.endsDigits (ends : Ends rest) : EndsDigits rest := fun c head => (ends c head).1

theorem endsDigits_exponent (scale : IsExponent exponent) (ends : Ends rest) :
    EndsDigits (exponent ++ rest) ∧ ∀ c ∈ (exponent ++ rest).head?, c ≠ '.' := by
  cases scale with
  | none => exact ⟨ends.endsDigits, fun c head => (ends c head).2.1⟩
  | digits marked signed numeral =>
    constructor <;> rintro _ ⟨⟩ <;> rcases marked with rfl | rfl <;> decide

theorem endsDigits_fraction (part : IsFraction fraction) (ends : EndsDigits rest) :
    EndsDigits (fraction ++ rest) := by
  cases part with
  | none => exact ends
  | digits numeral =>
    rintro _ ⟨⟩
    decide

theorem isDigit_eq (c : Char) : isDigit c = c.isDigit := by
  rw [Bool.eq_iff_iff, isDigit_iff, isDigit, Bool.and_eq_true, decide_eq_true_eq,
    decide_eq_true_eq]

theorem readDigits_append (numeral : IsNumeral digits n) (ends : EndsDigits rest) :
    readDigits (digits ++ rest) = some (digits, rest) := by
  have all : ∀ c ∈ digits, isDigit c = true := fun c member => by
    rw [isDigit_eq]
    exact numeral.decimal c member
  have stop : rest.takeWhile isDigit = [] ∧ rest.dropWhile isDigit = rest := by
    cases rest with
    | nil => exact ⟨rfl, rfl⟩
    | cons c rest =>
      have other := ends c rfl
      rw [← isDigit_eq] at other
      simp [other]
  unfold readDigits
  rw [List.takeWhile_append_of_pos all, List.dropWhile_append_of_pos all, stop.1, stop.2,
    List.append_nil]
  split
  next blank => exact absurd rfl numeral.nonempty
  next => rfl

theorem readWhole_append (whole : IsWhole digits n) (ends : EndsDigits rest) :
    readWhole (digits ++ rest) = some (digits, rest) := by
  unfold readWhole
  rw [readDigits_append whole.numeral ends]
  split
  next zero =>
    cases zero
    cases whole.leading rfl
  next => rfl

theorem skipFraction_append (part : IsFraction fraction) (ends : EndsDigits rest)
    (point : ∀ c ∈ rest.head?, c ≠ '.') : skipFraction (fraction ++ rest) = some rest := by
  cases part with
  | none =>
    rw [List.nil_append, skipFraction]
    rintro after rfl
    exact point '.' rfl rfl
  | digits numeral =>
    rw [List.cons_append, skipFraction, readDigits_append numeral ends]
    rfl

theorem skipExponent_append (scale : IsExponent exponent) (ends : Ends rest) :
    skipExponent (exponent ++ rest) = some rest := by
  cases scale with
  | none =>
    rw [List.nil_append, skipExponent]
    · rintro after rfl
      exact (ends 'e' rfl).2.2.1 rfl
    · rintro after rfl
      exact (ends 'E' rfl).2.2.2 rfl
  | @digits mark sign digits n marked signed numeral =>
    have unsigned : skipSign (sign ++ (digits ++ rest)) = digits ++ rest := by
      have bare : skipSign (digits ++ rest) = digits ++ rest := by
        rw [skipSign]
        · intro after same
          exact absurd (numeral.isDigit_of_append same) (by decide)
        · intro after same
          exact absurd (numeral.isDigit_of_append same) (by decide)
      simp only [List.mem_cons, List.not_mem_nil, or_false] at signed
      rcases signed with rfl | rfl | rfl
      · exact bare
      · rfl
      · rfl
    rw [List.cons_append, List.append_assoc]
    rcases marked with rfl | rfl
    · rw [skipExponent, unsigned, readDigits_append numeral ends.endsDigits]
      rfl
    · rw [skipExponent, unsigned, readDigits_append numeral ends.endsDigits]
      rfl

theorem readPlain_append (whole : IsWhole digits n) (part : IsFraction fraction)
    (scale : IsExponent exponent) (ends : Ends rest) :
    readPlain (digits ++ (fraction ++ (exponent ++ rest))) =
      some (if fraction = [] ∧ exponent = [] then .natural n else .otherNumber, rest) := by
  obtain ⟨behind, point⟩ := endsDigits_exponent scale ends
  have more : rest.length = (fraction ++ (exponent ++ rest)).length ↔
      fraction = [] ∧ exponent = [] := by
    simp only [List.length_append, ← List.length_eq_zero_iff]
    omega
  rw [readPlain, readWhole_append whole (endsDigits_fraction part behind)]
  simp only [Option.bind_eq_bind, Option.bind_some, skipFraction_append part behind point,
    skipExponent_append scale ends, more, decimal?_eq_some_iff.2 whole.numeral, Option.pure_def]
  split
  next plain =>
    obtain ⟨rfl, rfl⟩ := plain
    rfl
  next => rfl

theorem IsNumber.readNumber {text : List Char} {v : Value} (number : IsNumber text v)
    (ends : Ends rest) : readNumber (text ++ rest) = some (v, rest) := by
  cases number with
  | natural whole =>
    have plain := readPlain_append whole .none .none ends
    rw [Json.readNumber]
    · simpa using plain
    · intro after same
      exact absurd (whole.numeral.isDigit_of_append same) (by decide)
  | @other sign digits fraction exponent n signed whole part scale more =>
    have plain := readPlain_append whole part scale ends
    simp only [List.mem_cons, List.not_mem_nil, or_false] at signed
    simp only [List.append_assoc]
    rcases signed with rfl | rfl
    · rw [List.nil_append, Json.readNumber, plain, if_neg]
      · rw [not_and_or]
        simpa using more
      · intro after same
        exact absurd (whole.numeral.isDigit_of_append same) (by decide)
    · rw [List.singleton_append, Json.readNumber, plain]
      rfl

theorem isWhole_toDigits (n : Nat) : IsWhole (Nat.toDigits 10 n) n where
  numeral := isNumeral_toDigits n
  leading := by
    induction n using Nat.strongRecOn with
    | _ n ih =>
      intro zero
      rw [Nat.toDigits_eq_if (by decide)] at zero ⊢
      split at zero
      next small =>
        rw [if_pos small, Option.some.inj zero]
      next large =>
        have front := ih (n / 10) (by omega) (by
          rwa [List.head?_append_of_ne_nil _ Nat.toDigits_ne_nil] at zero)
        have value := Nat.ofDigitChars_ten_toDigits (n := n / 10)
        rw [front] at value
        have none : Nat.ofDigitChars 10 ['0'] 0 = 0 := by decide
        omega

end StanzaDelivery.Json
