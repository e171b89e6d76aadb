/-! Unsigned 64-bit words as decimal text. A word may be written with one plus sign
in front and any number of leading zeros; a value of 2^64 or more is no word. -/

namespace StanzaDelivery.Text

def digitValue? (c : Char) : Option Nat :=
  if '0' ≤ c ∧ c ≤ '9' then some (c.toNat - '0'.toNat) else none

/-- The value of the digits after those that make up `value`. -/
def decimalFrom? (value : Nat) : List Char → Option Nat
  | [] => some value
  | c :: cs => (digitValue? c).bind fun d => decimalFrom? (10 * value + d) cs

def decimal? : List Char → Option Nat
  | [] => none
  | c :: cs => decimalFrom? 0 (c :: cs)

def wordOfNat? (n : Nat) : Option UInt64 :=
  if n < UInt64.size then some (UInt64.ofNat n) else none

def word? : List Char → Option UInt64
  | '+' :: cs => (decimal? cs).bind wordOfNat?
  | cs => (decimal? cs).bind wordOfNat?

/-- Twice the word, or the largest word if that is no word. -/
def doubled (n : UInt64) : UInt64 :=
  UInt64.ofNat (min (2 * n.toNat) (UInt64.size - 1))

theorem wordOfNat?_toNat (n : UInt64) : wordOfNat? n.toNat = some n := by
  simp [wordOfNat?, UInt64.toNat_lt_size]

theorem toNat_doubled (n : UInt64) :
    (doubled n).toNat = min (2 * n.toNat) (UInt64.size - 1) := by
  have bound : min (2 * n.toNat) (UInt64.size - 1) < UInt64.size :=
    Nat.lt_of_le_of_lt (Nat.min_le_right ..) (by decide)
  exact UInt64.toNat_ofNat_of_lt' bound

theorem le_doubled (n : UInt64) : n.toNat ≤ (doubled n).toNat := by
  have below := UInt64.toNat_lt_size n
  rw [toNat_doubled]
  omega

end StanzaDelivery.Text
