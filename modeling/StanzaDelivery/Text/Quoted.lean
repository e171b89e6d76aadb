import StanzaDelivery.Text.Joining
import StanzaDelivery.Text.Unseen

/-! Quoted text as an inspection shows it: between double quotes, with a backslash
before a quote or a backslash, short escapes for four control characters, and the
code point in hexadecimal for a character that would not show by itself. -/

namespace StanzaDelivery.Text

def hexDigits (n : Nat) : List Char := Nat.toDigits 16 n

def quotedChar (c : Char) : List Char :=
  if c = '"' ∨ c = '\\' then ['\\', c]
  else if c = '\n' then ['\\', 'n']
  else if c = '\r' then ['\\', 'r']
  else if c = '\t' then ['\\', 't']
  else if c.toNat = 0 then ['\\', '0']
  else if isUnseen c || isJoining c then
    ['\\', 'u', '\x7b'] ++ hexDigits c.toNat ++ ['\x7d']
  else [c]

def quoted (s : String) : String :=
  String.ofList ('"' :: s.toList.flatMap quotedChar ++ ['"'])

/-- A record as an inspection shows it: its name, then each field with its value. -/
def record (name : String) (fields : List (String × String)) : String :=
  name ++ " \x7b " ++ ", ".intercalate (fields.map fun field => field.1 ++ ": " ++ field.2) ++
    " \x7d"

end StanzaDelivery.Text
