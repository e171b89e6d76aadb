/-! The states of a client's stream, in the order in which a stream goes through them.
Only an authenticated session is handed stanzas. -/

namespace StanzaDelivery

inductive SessionState
  | initiated
  | encrypted
  | authenticating
  | authenticated
  | ended
  | closed
  deriving DecidableEq, Repr

namespace SessionState

def all : List SessionState :=
  [.initiated, .encrypted, .authenticating, .authenticated, .ended, .closed]

def name : SessionState → String
  | .initiated => "initiated"
  | .encrypted => "encrypted"
  | .authenticating => "authenticating"
  | .authenticated => "authenticated"
  | .ended => "ended"
  | .closed => "closed"

/-- The state with this code; a code beyond the last state stands for a closed stream. -/
def ofCode (code : Nat) : SessionState := all.getD code .closed

def ofName? (name : String) : Option SessionState := all.find? (·.name == name)

theorem ofName?_name (s : SessionState) : ofName? s.name = some s := by
  cases s <;> rfl

end SessionState
end StanzaDelivery
