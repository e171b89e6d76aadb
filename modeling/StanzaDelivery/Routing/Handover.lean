import StanzaDelivery.Session.Registry

/-! Handing a stanza to sessions. The sessions are looked at once, to see which of them
are authenticated; then each of those is attempted by a deliverer, which acts on that
session alone. A session that fails leaves the others as they are. -/

namespace StanzaDelivery

namespace Handover

inductive Attempt
  | accepted
  | refused (fault : Fault)
  | crashed
  deriving DecidableEq, Repr

/-- What attempting a session with a stanza comes to, and the session afterwards. -/
abbrev Deliverer := Stanza → Session → Attempt × Session

def notAuthenticated : Fault := .failed "no relay to non-authenticated session"

def handlerCrashed : Fault := .failed "session handler panicked"

def accept : Deliverer := fun stanza s =>
  match s.accept stanza with
  | (.ok (), after) => (.accepted, after)
  | (.error fault, after) => (.refused fault, after)

/-- Looks at the state once more, since the session may have left it meanwhile. -/
def handoff : Deliverer := fun stanza s =>
  if s.isAuthenticated then accept stanza s else (.refused notAuthenticated, s)

def endingFirst : Deliverer := fun stanza s => handoff stanza { s with state := .ended }

def crashingAboveZero : Deliverer := fun stanza s =>
  if 0 < s.priority then (.crashed, s) else accept stanza s

def refusing (fault : Fault) : Deliverer := fun _ s => (.refused fault, s)

/-- A session to attempt, and whether it was authenticated when it was looked at. -/
structure Target where
  id : SessionId
  eligible : Bool
  deriving DecidableEq, Repr

def targetOf (r : Registry) (id : SessionId) : Target :=
  ⟨id, (r.session? id).any Session.isAuthenticated⟩

def Attempt.fault? : Attempt → Option Fault
  | .accepted => none
  | .refused fault => some fault
  | .crashed => some handlerCrashed

/-- The fault of one target, if it has one, and its session afterwards. -/
def attempt (deliver : Deliverer) (stanza : Stanza) (eligible : Bool) (s : Session) :
    Option Fault × Session :=
  if eligible then
    let (attempted, after) := deliver stanza s
    (attempted.fault?, after)
  else (some notAuthenticated, s)

/-- Attempts the session of this target; one that is not there has no fault. -/
def attemptTarget (deliver : Deliverer) (stanza : Stanza) (target : Target) (r : Registry) :
    Option Fault × Registry :=
  (r.act target.id (attempt deliver stanza target.eligible)).getD (none, r)

/-- Attempts the targets in turn, and gives their faults in that order. -/
def attemptAll (deliver : Deliverer) (stanza : Stanza) :
    List Target → Registry → List Fault × Registry
  | [], r => ([], r)
  | target :: rest, r =>
    let (fault, r) := attemptTarget deliver stanza target r
    let (faults, r) := attemptAll deliver stanza rest r
    (fault.toList ++ faults, r)

theorem directory_attemptTarget (deliver : Deliverer) (stanza : Stanza) (target : Target)
    (r : Registry) : (attemptTarget deliver stanza target r).2.directory = r.directory := by
  simp only [attemptTarget, Registry.act]
  cases r.session? target.id <;> rfl

theorem directory_attemptAll (deliver : Deliverer) (stanza : Stanza) (targets : List Target)
    (r : Registry) : (attemptAll deliver stanza targets r).2.directory = r.directory := by
  induction targets generalizing r with
  | nil => rfl
  | cons target rest ih => simp only [attemptAll, ih, directory_attemptTarget]

end Handover
end StanzaDelivery
