import StanzaDelivery.Fault
import StanzaDelivery.Stanza

/-! Error replies. A stanza bounces when its faults hold one that is more than a note
that it is kept for later, unless it is itself an error or an answer, or names no
sender. The first such fault decides the condition. -/

namespace StanzaDelivery.Bounce

def conditionOf : Fault → Stanza.ErrorType × Stanza.Condition
  | .noSuchUser => (.cancel, .serviceUnavailable)
  | .serviceUnavailable _ => (.cancel, .serviceUnavailable)
  | .recipientOffline => (.wait, .recipientUnavailable)
  | .storedOffline => (.cancel, .undefinedCondition)
  | .failed _ => (.cancel, .undefinedCondition)
  | .causedBy _ _ => (.cancel, .undefinedCondition)
  | .causedByStorage _ _ => (.cancel, .undefinedCondition)

/-- The error names its condition and has an empty explanation in English. -/
def errorOf (fault : Fault) : Stanza.Error :=
  ⟨(conditionOf fault).1, (conditionOf fault).2, [("en", "")]⟩

/-- The stanza turned around: same kind and id, back to its sender, with this error. -/
def reply (stanza : Stanza) (sender : Address) (error : Stanza.Error) : Stanza :=
  match stanza with
  | .message m => .message ⟨.error, some sender, m.recipient, m.id, none, some error⟩
  | .presence p => .presence ⟨.error, some sender, p.recipient, p.id, some error⟩
  | .iq q => .iq ⟨.error error, some sender, q.recipient, q.id⟩

def cause? (faults : List Fault) : Option Fault := faults.find? fun fault => !fault.isStoredOffline

/-- The reply that these faults call for, with its destination. -/
def reply? (stanza : Stanza) (faults : List Fault) : Option (Address × Stanza) :=
  if stanza.isErrorOrResponse then none
  else
    match stanza.sender, cause? faults with
    | some sender, some fault => some (sender, reply stanza sender (errorOf fault))
    | _, _ => none

theorem cause?_eq_none_iff {faults : List Fault} :
    cause? faults = none ↔ ∀ fault ∈ faults, fault = .storedOffline := by
  simp [cause?, Fault.isStoredOffline_iff]

theorem reply?_of_question {stanza : Stanza} {sender : Address}
    (question : stanza.isErrorOrResponse = false) (from_ : stanza.sender = some sender)
    (faults : List Fault) :
    reply? stanza faults = (cause? faults).map fun fault =>
      (sender, reply stanza sender (errorOf fault)) := by
  rw [reply?, question, from_]
  cases cause? faults <;> rfl

theorem isErrorOrResponse_reply (stanza : Stanza) (sender : Address) (error : Stanza.Error) :
    (reply stanza sender error).isErrorOrResponse = true := by
  cases stanza <;> rfl

theorem recipient_reply (stanza : Stanza) (sender : Address) (error : Stanza.Error) :
    (reply stanza sender error).recipient = some sender := by
  cases stanza <;> rfl

theorem sender_reply (stanza : Stanza) (sender : Address) (error : Stanza.Error) :
    (reply stanza sender error).sender = stanza.recipient := by
  cases stanza <;> rfl

theorem kind_reply (stanza : Stanza) (sender : Address) (error : Stanza.Error) :
    (reply stanza sender error).kind = stanza.kind := by
  cases stanza <;> rfl

theorem id_reply (stanza : Stanza) (sender : Address) (error : Stanza.Error) :
    (reply stanza sender error).id = stanza.id := by
  cases stanza <;> rfl

theorem typeName_reply (stanza : Stanza) (sender : Address) (error : Stanza.Error) :
    (reply stanza sender error).typeName = "error" := by
  cases stanza <;> rfl

theorem error_reply (stanza : Stanza) (sender : Address) (error : Stanza.Error) :
    (reply stanza sender error).error = some error := by
  cases stanza <;> rfl

/-- No reply is answered by another one. -/
theorem reply?_of_reply (stanza : Stanza) (sender : Address) (error : Stanza.Error)
    (faults : List Fault) : reply? (reply stanza sender error) faults = none := by
  simp [reply?, isErrorOrResponse_reply]

end StanzaDelivery.Bounce
