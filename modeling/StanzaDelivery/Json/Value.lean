import StanzaDelivery.Json.Text

/-! JSON values as far as a configuration can tell them apart. A number that is not a
plain sequence of digits has no value here, and neither has a string with an unpaired
surrogate; both are still read, since a document may hold them where nobody looks. -/

namespace StanzaDelivery.Json

inductive Value
  | null
  | bool (value : Bool)
  | natural (value : Nat)
  | otherNumber
  | text (value : String)
  | unpairedText
  | array (items : List Value)
  | object (members : List (Option String × Value))
  deriving Repr, Inhabited

/-- A member without a name is one whose name has an unpaired surrogate. -/
abbrev Member := Option String × Value

end StanzaDelivery.Json
