import StanzaDelivery.Json.Value
import StanzaDelivery.Text.Word

/-! Reading a JSON document. The reader takes the grammar at its word: no comments, no
comma after the last item, no leading zeros, and nothing but blanks after the value. -/

namespace StanzaDelivery.Json

def isSpace (c : Char) : Bool := c = ' ' || c = '\n' || c = '\t' || c = '\r'

def skipSpace (cs : List Char) : List Char := cs.dropWhile isSpace

def isDigit (c : Char) : Bool := '0' ≤ c && c ≤ '9'

/-- The digits in front, of which there is at least one, and what follows them. -/
def readDigits (cs : List Char) : Option (List Char × List Char) :=
  match cs.takeWhile isDigit with
  | [] => none
  | digits => some (digits, cs.dropWhile isDigit)

/-- Digits without a leading zero, unless zero is the number. -/
def readWhole (cs : List Char) : Option (List Char × List Char) :=
  match readDigits cs with
  | some ('0' :: _ :: _, _) => none
  | found => found

/-- What follows the digits after a point, if there is a point. -/
def skipFraction : List Char → Option (List Char)
  | '.' :: rest => (readDigits rest).map Prod.snd
  | cs => some cs

def skipSign : List Char → List Char
  | '+' :: rest => rest
  | '-' :: rest => rest
  | cs => cs

/-- What follows the exponent, if there is one. -/
def skipExponent : List Char → Option (List Char)
  | 'e' :: rest => (readDigits (skipSign rest)).map Prod.snd
  | 'E' :: rest => (readDigits (skipSign rest)).map Prod.snd
  | cs => some cs

def readPlain (cs : List Char) : Option (Value × List Char) := do
  let (digits, rest) ← readWhole cs
  let after ← skipFraction rest
  let final ← skipExponent after
  if final.length = rest.length then
    let value ← Text.decimal? digits
    return (.natural value, rest)
  else return (.otherNumber, final)

def readNumber : List Char → Option (Value × List Char)
  | '-' :: cs => (readPlain cs).map fun read => (.otherNumber, read.2)
  | cs => readPlain cs

/-- The string after an opening quote, as a text if it is one. -/
def readText (cs : List Char) : Option (Option String × List Char) :=
  (readPieces cs).map fun read => ((joinPieces read.1).map String.ofList, read.2)

def textValue : Option String → Value
  | some s => .text s
  | none => .unpairedText

mutual

/-- The value in front, blanks before it included. Each level of nesting and each item
takes one unit of `fuel`, so the length of the document is always enough. -/
def readValue : (fuel : Nat) → List Char → Option (Value × List Char)
  | 0, _ => none
  | fuel + 1, cs =>
    match skipSpace cs with
    | '[' :: rest =>
      match skipSpace rest with
      | ']' :: after => some (.array [], after)
      | _ => (readItems fuel rest).map fun read => (.array read.1, read.2)
    | '\x7b' :: rest =>
      match skipSpace rest with
      | '\x7d' :: after => some (.object [], after)
      | _ => (readMembers fuel rest).map fun read => (.object read.1, read.2)
    | '"' :: rest => (readText rest).map fun read => (textValue read.1, read.2)
    | 'n' :: 'u' :: 'l' :: 'l' :: rest => some (.null, rest)
    | 't' :: 'r' :: 'u' :: 'e' :: rest => some (.bool true, rest)
    | 'f' :: 'a' :: 'l' :: 's' :: 'e' :: rest => some (.bool false, rest)
    | other => readNumber other

/-- The items up to the closing bracket, of which there is at least one. -/
def readItems : (fuel : Nat) → List Char → Option (List Value × List Char)
  | 0, _ => none
  | fuel + 1, cs =>
    match readValue fuel cs with
    | none => none
    | some (item, rest) =>
      match skipSpace rest with
      | ',' :: more => (readItems fuel more).map fun read => (item :: read.1, read.2)
      | ']' :: after => some ([item], after)
      | _ => none

/-- The members up to the closing brace, of which there is at least one. -/
def readMembers : (fuel : Nat) → List Char → Option (List Member × List Char)
  | 0, _ => none
  | fuel + 1, cs =>
    match readMember fuel cs with
    | none => none
    | some (member, rest) =>
      match skipSpace rest with
      | ',' :: more => (readMembers fuel more).map fun read => (member :: read.1, read.2)
      | '\x7d' :: after => some ([member], after)
      | _ => none

def readMember : (fuel : Nat) → List Char → Option (Member × List Char)
  | 0, _ => none
  | fuel + 1, cs =>
    match skipSpace cs with
    | '"' :: start =>
      match readText start with
      | none => none
      | some (name, rest) =>
        match skipSpace rest with
        | ':' :: more => (readValue fuel more).map fun read => ((name, read.1), read.2)
        | _ => none
    | _ => none

end

/-- The value that the whole document is. -/
def read (cs : List Char) : Option Value :=
  match readValue (2 * cs.length + 1) cs with
  | some (value, rest) => if skipSpace rest = [] then some value else none
  | none => none

end StanzaDelivery.Json
