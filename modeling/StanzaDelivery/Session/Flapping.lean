import StanzaDelivery.Address
import StanzaDelivery.Session.Priority

/-! Sessions whose priority changes by a fixed step whenever it is read, wrapping around
at the ends of the eight-bit range. -/

namespace StanzaDelivery.Flapping

structure Session where
  address : FullAddress
  priority : Int8
  step : Int8
  deriving DecidableEq, Repr

/-- The priority of the session at this place, which changes by being read. -/
def readAt (place : Nat) : StateM (List Session) Int8 := fun sessions =>
  match sessions[place]? with
  | none => (0, sessions)
  | some s => (s.priority, sessions.set place { s with priority := s.priority + s.step })

/-- The addresses that the query finds. -/
def query (q : Priority.Query) : StateM (List Session) (List FullAddress) := fun sessions =>
  let (found, after) := (q.run readAt (List.range sessions.length)) sessions
  (found.filterMap fun place => sessions[place]?.map (·.address), after)

end StanzaDelivery.Flapping
