/-! What can go wrong when a stanza is delivered or stored, and the words for it. A
fault that wraps another keeps it as its cause, so the whole chain can be shown. -/

namespace StanzaDelivery

inductive StorageFault
  | database (reason : String)
  | quotaExceeded (account : String)
  | noDestination
  deriving DecidableEq, Repr

def StorageFault.name : StorageFault → String
  | .database _ => "database"
  | .quotaExceeded _ => "quota"
  | .noDestination => "no-destination"

def StorageFault.message : StorageFault → String
  | .database reason => "Database error: " ++ reason
  | .quotaExceeded account => "Storage quota exceeded for " ++ account
  | .noDestination => "Stanza has no usable destination"

inductive FaultKind
  | noSuchUser
  | recipientOffline
  | storedOffline
  | serviceUnavailable
  | failed
  deriving DecidableEq, Repr

def FaultKind.all : List FaultKind :=
  [.noSuchUser, .recipientOffline, .storedOffline, .serviceUnavailable, .failed]

def FaultKind.name : FaultKind → String
  | .noSuchUser => "no-such-local-user"
  | .recipientOffline => "local-recipient-offline"
  | .storedOffline => "delivered-to-offline-receiver"
  | .serviceUnavailable => "service-not-available"
  | .failed => "failed"

/-- Why a stanza did not reach a session. `storedOffline` is no failure: it says that
the stanza is kept for later and need not be kept a second time. -/
inductive Fault
  | noSuchUser
  | recipientOffline
  | storedOffline
  | serviceUnavailable (reason : String)
  | failed (reason : String)
  | causedBy (reason : String) (cause : Fault)
  | causedByStorage (reason : String) (cause : StorageFault)
  deriving DecidableEq, Repr

namespace Fault

def kind : Fault → FaultKind
  | .noSuchUser => .noSuchUser
  | .recipientOffline => .recipientOffline
  | .storedOffline => .storedOffline
  | .serviceUnavailable _ => .serviceUnavailable
  | .failed _ => .failed
  | .causedBy _ _ => .failed
  | .causedByStorage _ _ => .failed

def message : Fault → String
  | .noSuchUser => "No such local user"
  | .recipientOffline => "Local recipient offline"
  | .storedOffline => "Delivered to offline receiver"
  | .serviceUnavailable reason => "Service not available: " ++ reason
  | .failed reason => "Delivery failed: " ++ reason
  | .causedBy reason _ => "Delivery failed: " ++ reason
  | .causedByStorage reason _ => "Delivery failed: " ++ reason

/-- The messages of the cause, of its cause, and so on. -/
def causes : Fault → List String
  | .causedBy _ cause => cause.message :: cause.causes
  | .causedByStorage _ cause => [cause.message]
  | _ => []

def isStoredOffline (f : Fault) : Bool := f.kind = .storedOffline

theorem isStoredOffline_iff (f : Fault) : f.isStoredOffline = true ↔ f = .storedOffline := by
  cases f <;> simp [isStoredOffline, kind]

end Fault
end StanzaDelivery
