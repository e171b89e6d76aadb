import StanzaDelivery.Json.Value

/-! Writing a JSON document without blanks. A number or a string that has no value here
is written as one that reads back so. -/

namespace StanzaDelivery.Json

def joined : List (List Char) → List Char
  | [] => []
  | [last] => last
  | first :: rest => first ++ ',' :: joined rest

def writeName : Option String → List Char
  | some name => writeText name.toList
  | none => "\"\\ud800\"".toList

def writeNatural (n : Nat) : List Char := Nat.toDigits 10 n

mutual

def write : Value → List Char
  | .null => ['n', 'u', 'l', 'l']
  | .bool true => ['t', 'r', 'u', 'e']
  | .bool false => ['f', 'a', 'l', 's', 'e']
  | .natural n => writeNatural n
  | .otherNumber => ['-', '1']
  | .text s => writeText s.toList
  | .unpairedText => writeName none
  | .array items => '[' :: joined (writeItems items) ++ [']']
  | .object members => '\x7b' :: joined (writeMembers members) ++ ['\x7d']

def writeItems : List Value → List (List Char)
  | [] => []
  | item :: rest => write item :: writeItems rest

def writeMembers : List (Option String × Value) → List (List Char)
  | [] => []
  | (name, value) :: rest => (writeName name ++ ':' :: write value) :: writeMembers rest

end

end StanzaDelivery.Json
