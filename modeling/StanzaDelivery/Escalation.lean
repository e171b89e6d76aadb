import StanzaDelivery.Escalation.Bounce

/-! Escalations: what is done with a stanza whose delivery had faults. An escalation is
a single remedy or a chain of escalations, tried from left to right until one ends badly.
Remedies act through facilities that their user supplies, on a state of the user's own. -/

namespace StanzaDelivery

/-- `note` only writes down that it was called; `fail` and `crash` end badly. -/
inductive Remedy
  | ignore
  | bounce
  | storeOffline
  | note
  | fail (fault : Fault)
  | crash
  deriving DecidableEq, Repr

inductive Escalation
  | single (remedy : Remedy)
  | chain (parts : List Escalation)
  deriving Repr, Inhabited

namespace Escalation

/-- How a remedy or an escalation ended. -/
inductive Ending
  | done
  | fault (fault : Fault)
  | crashed
  deriving DecidableEq, Repr

def Ending.ofFault : Except Fault Unit → Ending
  | .ok () => .done
  | .error cause => .fault cause

/-- What remedies act through: sending a reply, keeping a stanza for later, and writing
down a call. -/
structure Facilities (σ : Type) where
  send : Address → Stanza → σ → Except Fault Unit × σ
  keep : Stanza → σ → Except StorageFault Unit × σ
  note : Stanza → List Fault → σ → σ

variable {σ : Type}

def isMessage (stanza : Stanza) : Bool := stanza.kind = .message

/-- Only a message whose recipient was offline is kept for later. -/
def wantsKeeping (stanza : Stanza) (faults : List Fault) : Bool :=
  faults.any (·.kind = .recipientOffline) && isMessage stanza

def bounce (f : Facilities σ) (stanza : Stanza) (faults : List Fault) (s : σ) : Ending × σ :=
  match Bounce.reply? stanza faults with
  | none => (.done, s)
  | some (sender, reply) =>
    let (sent, after) := f.send sender reply s
    (.ofFault sent, after)

def storeOffline (f : Facilities σ) (stanza : Stanza) (faults : List Fault) (s : σ) :
    Ending × σ :=
  if wantsKeeping stanza faults then
    match f.keep stanza s with
    | (.ok (), after) => (.done, after)
    | (.error fault, after) => (.fault (.causedByStorage "offline storage failed" fault), after)
  else (.done, s)

def tryRemedy (f : Facilities σ) (stanza : Stanza) (faults : List Fault) (remedy : Remedy)
    (s : σ) : Ending × σ :=
  match remedy with
  | .ignore => (.done, s)
  | .bounce => bounce f stanza faults s
  | .storeOffline => storeOffline f stanza faults s
  | .note => (.done, f.note stanza faults s)
  | .fail fault => (.fault fault, s)
  | .crash => (.crashed, s)

mutual

def tryAll (f : Facilities σ) (stanza : Stanza) (faults : List Fault) :
    Escalation → σ → Ending × σ
  | .single remedy, s => tryRemedy f stanza faults remedy s
  | .chain parts, s => tryEach f stanza faults parts s

/-- Tries the parts in turn; the first that does not end well ends the chain. -/
def tryEach (f : Facilities σ) (stanza : Stanza) (faults : List Fault) :
    List Escalation → σ → Ending × σ
  | [], s => (.done, s)
  | part :: rest, s =>
    match tryAll f stanza faults part s with
    | (.done, after) => tryEach f stanza faults rest after
    | bad => bad

end

mutual

/-- The remedies in the order in which they are tried. -/
def remedies : Escalation → List Remedy
  | .single remedy => [remedy]
  | .chain parts => remediesOfAll parts

def remediesOfAll : List Escalation → List Remedy
  | [] => []
  | part :: rest => remedies part ++ remediesOfAll rest

end

/-- How many replies the escalation can send at most. -/
def bounces (e : Escalation) : Nat := e.remedies.count .bounce

end Escalation
end StanzaDelivery
