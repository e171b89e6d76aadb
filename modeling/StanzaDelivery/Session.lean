import StanzaDelivery.Capacity
import StanzaDelivery.Report
import StanzaDelivery.Session.State
import StanzaDelivery.Stanza

/-! Client sessions. A session has a bounded inbox that its connection drains; once the
connection has hung up, the inbox is gone and nothing can be put into it. -/

namespace StanzaDelivery

structure Session where
  address : FullAddress
  state : SessionState
  priority : Int8
  capacity : Nat
  connected : Bool
  inbox : List Stanza
  deriving DecidableEq, Repr

namespace Session

/-- A session just bound: authenticated, of priority zero, with an empty inbox. There is
no inbox without room for a stanza, and none beyond the largest capacity. -/
def bound? (address : FullAddress) (capacity : Nat) : Option Session :=
  if 0 < capacity ∧ capacity ≤ Capacity.largest then
    some ⟨address, .authenticated, 0, capacity, true, []⟩
  else none

def isAuthenticated (s : Session) : Bool := s.state = .authenticated

def hasRoom (s : Session) : Bool := s.inbox.length < s.capacity

def put (stanza : Stanza) (s : Session) : Session := { s with inbox := s.inbox ++ [stanza] }

def inboxClosed (address : FullAddress) : Fault :=
  .failed ("outbound channel closed for " ++ address.text)

def inboxFull (address : FullAddress) : Fault :=
  .failed ("outbound channel full for " ++ address.text)

/-- Puts the stanza into the inbox, if the connection is there and the inbox has room. -/
def accept (stanza : Stanza) (s : Session) : Except Fault Unit × Session :=
  if !s.connected then (.error (inboxClosed s.address), s)
  else if s.hasRoom then (.ok (), s.put stanza)
  else (.error (inboxFull s.address), s)

def hangUp (s : Session) : Session := { s with connected := false, inbox := [] }

/-- What the connection takes out of the inbox, if it has not hung up. -/
def drain (s : Session) : Option (List Stanza) × Session :=
  if s.connected then (some s.inbox, { s with inbox := [] }) else (none, s)

theorem accept_fst_eq_ok_iff (stanza : Stanza) (s : Session) :
    (s.accept stanza).1 = .ok () ↔ s.connected = true ∧ s.hasRoom = true := by
  simp only [accept]
  cases s.connected <;> cases s.hasRoom <;> simp

theorem inbox_accept (stanza : Stanza) (s : Session) :
    (s.accept stanza).2.inbox =
      s.inbox ++ if s.connected && s.hasRoom then [stanza] else [] := by
  simp only [accept]
  cases s.connected <;> cases room : s.hasRoom <;> simp [put]

end Session
end StanzaDelivery
