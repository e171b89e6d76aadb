import StanzaDelivery.Escalation
import StanzaDelivery.Storage.StanzaStore

/-! An escalation tried out without an engine: replies are written down instead of being
delivered, or refused, and kept stanzas go into a store. -/

namespace StanzaDelivery

structure Rehearsal where
  refusesReplies : Bool
  sent : List (Address × Stanza)
  store : StanzaStore
  notes : Nat
  deriving DecidableEq, Repr

namespace Rehearsal

def send (destination : Address) (stanza : Stanza) (r : Rehearsal) :
    Except Fault Unit × Rehearsal :=
  if r.refusesReplies then (.error (.serviceUnavailable "relay stopped"), r)
  else (.ok (), { r with sent := r.sent ++ [(destination, stanza)] })

def keep (stanza : Stanza) (r : Rehearsal) : Except StorageFault Unit × Rehearsal :=
  let (kept, store) := r.store.receive stanza
  (kept, { r with store := store })

def facilities : Escalation.Facilities Rehearsal where
  send := send
  keep := keep
  note := fun _ _ r => { r with notes := r.notes + 1 }

def run (e : Escalation) (stanza : Stanza) (faults : List Fault) (r : Rehearsal) :
    Escalation.Ending × Rehearsal :=
  e.tryAll facilities stanza faults r

end Rehearsal
end StanzaDelivery
