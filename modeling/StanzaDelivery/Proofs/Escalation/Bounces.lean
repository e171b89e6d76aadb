import StanzaDelivery.Proofs.Escalation.Deeds

/-! Which stanzas bounce, and what comes back. A stanza that is neither an error nor an answer, and
names its sender, bounces if one of its faults is more than a note that it is kept for later. The
first such fault tells what the reply says; the others, and the notes before it, tell nothing. -/

namespace StanzaDelivery

namespace Bounce

/-- An error, or an answer to a query: nobody replies to these. -/
def Final : Stanza → Prop
  | .message m => m.type = .error
  | .presence p => p.type = .error
  | .iq q => q.payload = .result ∨ ∃ error, q.payload = .error error

theorem isErrorOrResponse_iff (stanza : Stanza) :
    stanza.isErrorOrResponse = true ↔ Final stanza := by
  cases stanza with
  | message m => simp [Stanza.isErrorOrResponse, Final]
  | presence p => simp [Stanza.isErrorOrResponse, Final]
  | iq q => cases known : q.payload <;> simp [Stanza.isErrorOrResponse, Final, known]

/-- The first of the faults that is more than a note that the stanza is kept for later. -/
def FirstCause (faults : List Fault) (cause : Fault) : Prop :=
  cause ≠ .storedOffline ∧ ∃ before after, faults = before ++ cause :: after ∧
    ∀ note ∈ before, note = .storedOffline

theorem cause?_eq_some_iff {faults : List Fault} {cause : Fault} :
    cause? faults = some cause ↔ FirstCause faults cause := by
  simp [cause?, FirstCause, List.find?_eq_some_iff_append, ← Fault.isStoredOffline_iff]

theorem exists_firstCause {faults : List Fault} {fault : Fault} (member : fault ∈ faults)
    (real : fault ≠ .storedOffline) : ∃ cause, FirstCause faults cause := by
  cases known : cause? faults with
  | none => exact absurd (cause?_eq_none_iff.1 known fault member) real
  | some cause => exact ⟨cause, cause?_eq_some_iff.1 known⟩

inductive Blames : FaultKind → Stanza.ErrorType → Stanza.Condition → Prop
  | noSuchUser : Blames .noSuchUser .cancel .serviceUnavailable
  | serviceUnavailable : Blames .serviceUnavailable .cancel .serviceUnavailable
  | recipientOffline : Blames .recipientOffline .wait .recipientUnavailable
  | failed : Blames .failed .cancel .undefinedCondition

theorem blames_conditionOf {fault : Fault} (real : fault ≠ .storedOffline) :
    Blames fault.kind (conditionOf fault).1 (conditionOf fault).2 := by
  cases fault with
  | storedOffline => exact absurd rfl real
  | noSuchUser => exact .noSuchUser
  | serviceUnavailable reason => exact .serviceUnavailable
  | recipientOffline => exact .recipientOffline
  | failed reason => exact .failed
  | causedBy reason cause => exact .failed
  | causedByStorage reason cause => exact .failed

/-- The answer takes the stanza back to its sender: it is of the same kind and id, comes from where
the stanza was to go, if that is known, and has no content but one error, which the cause tells. -/
structure Answers (stanza : Stanza) (sender : Address) (cause : Fault) (answer : Stanza) :
    Prop where
  kind : answer.kind = stanza.kind
  typed : answer.typeName = "error"
  recipient : answer.recipient = some sender
  sender : answer.sender = stanza.recipient
  id : answer.id = stanza.id
  body : answer.body = none
  error : ∃ error, answer.error = some error ∧ Blames cause.kind error.type error.condition ∧
    error.texts = [("en", "")]

theorem answers_reply (stanza : Stanza) (sender : Address) {cause : Fault}
    (real : cause ≠ .storedOffline) :
    Answers stanza sender cause (reply stanza sender (errorOf cause)) where
  kind := kind_reply ..
  typed := typeName_reply ..
  recipient := recipient_reply ..
  sender := sender_reply ..
  id := id_reply ..
  body := by cases stanza <;> rfl
  error := ⟨errorOf cause, error_reply .., blames_conditionOf real, rfl⟩

def Calls (stanza : Stanza) (faults : List Fault) : Prop :=
  ¬Final stanza ∧ (∃ sender, stanza.sender = some sender) ∧ ∃ fault ∈ faults, fault ≠ .storedOffline

theorem reply?_of_firstCause {stanza : Stanza} {sender : Address} {faults : List Fault}
    {cause : Fault} (open_ : ¬Final stanza) (from_ : stanza.sender = some sender)
    (first : FirstCause faults cause) :
    reply? stanza faults = some (sender, reply stanza sender (errorOf cause)) := by
  rw [← isErrorOrResponse_iff, Bool.not_eq_true] at open_
  rw [reply?_of_question open_ from_, cause?_eq_some_iff.2 first, Option.map_some]

theorem reply?_of_not_calls {stanza : Stanza} {faults : List Fault}
    (silent : ¬Calls stanza faults) : reply? stanza faults = none := by
  by_cases final : Final stanza
  · rw [reply?, if_pos ((isErrorOrResponse_iff stanza).2 final)]
  · have question : stanza.isErrorOrResponse = false := by
      rwa [← Bool.not_eq_true, isErrorOrResponse_iff]
    cases from_ : stanza.sender with
    | none => simp [reply?, question, from_]
    | some sender =>
      have notes : cause? faults = none := by
        rw [cause?_eq_none_iff]
        intro fault member
        apply Decidable.byContradiction
        intro real
        exact silent ⟨final, ⟨sender, from_⟩, fault, member, real⟩
      rw [reply?_of_question question from_, notes, Option.map_none]

theorem reply?_congr {faults others : List Fault}
    (same : ∀ cause, FirstCause others cause ↔ FirstCause faults cause) (stanza : Stanza) :
    reply? stanza others = reply? stanza faults := by
  have cause : cause? others = cause? faults :=
    Option.ext fun cause => by rw [cause?_eq_some_iff, cause?_eq_some_iff, same]
  rw [reply?, reply?, cause]

end Bounce

namespace Escalation

open Bounce

variable {σ : Type}

/-- How bouncing goes. A stanza that calls for a reply gets one, which is sent to its sender and
answers it with the first cause; all else depends on whether it is sent. Otherwise nothing is
done. -/
inductive Bounced (f : Facilities σ) (stanza : Stanza) (faults : List Fault) (s : σ) :
    Ending → σ → List Deed → Prop
  | answered {sender : Address} {cause : Fault} {answer : Stanza} {sent : Except Fault Unit}
      {after : σ} (calls : Calls stanza faults) (from_ : stanza.sender = some sender)
      (first : FirstCause faults cause) (answers : Answers stanza sender cause answer)
      (sending : f.send sender answer s = (sent, after)) :
      Bounced f stanza faults s (.ofFault sent) after [.sent sender answer sent]
  | silent (nobody : ¬Calls stanza faults) : Bounced f stanza faults s .done s []

theorem bounced_bounce (f : Facilities σ) (stanza : Stanza) (faults : List Fault) (s : σ) :
    ∃ ending after done, bounce f stanza faults s = (ending, after) ∧
      bounce f.recorded stanza faults (s, []) = (ending, after, done) ∧
      Bounced f stanza faults s ending after done := by
  by_cases calls : Calls stanza faults
  · obtain ⟨open_, ⟨sender, from_⟩, fault, member, real⟩ := id calls
    obtain ⟨cause, first⟩ := exists_firstCause member real
    have replied := reply?_of_firstCause open_ from_ first
    have answers := answers_reply stanza sender first.1
    generalize reply stanza sender (errorOf cause) = answer at replied answers
    rcases sending : f.send sender answer s with ⟨sent, after⟩
    refine ⟨_, after, _, ?_, ?_, .answered calls from_ first answers sending⟩
    · simp only [bounce, replied, sending]
    · simp only [bounce, replied, Facilities.recorded, sending, List.nil_append]
  · have nothing := reply?_of_not_calls calls
    refine ⟨_, _, _, ?_, ?_, .silent calls⟩
    · simp only [bounce, nothing]
    · simp only [bounce, nothing]

theorem Bounced.isSent_iff {f : Facilities σ} {stanza : Stanza} {faults : List Fault} {s after : σ}
    {ending : Ending} {done : List Deed} (bounced : Bounced f stanza faults s ending after done) :
    (∃ deed ∈ done, deed.isSent = true) ↔ Calls stanza faults := by
  cases bounced with
  | answered calls => simp [Deed.isSent, calls]
  | silent nobody => simp [nobody]

/-- Bouncing sends a reply if the stanza is neither an error nor an answer, names its sender, and
has a fault that is more than a note that it is kept for later. It then sends one, to the sender,
which answers the stanza with the first such fault, and ends well if that is sent and else with the
fault that prevented it. In all other cases it does nothing, and ends well. What comes after the
first cause, and how many notes come before it, makes no difference. -/
theorem bounce_is_exact (f : Facilities σ) (stanza : Stanza) (faults : List Fault) (s : σ) :
    ∃ ending after done,
      bounce f stanza faults s = (ending, after) ∧
      bounce f.recorded stanza faults (s, []) = (ending, after, done) ∧
      ((∃ deed ∈ done, deed.isSent = true) ↔
        ¬Final stanza ∧ (∃ sender, stanza.sender = some sender) ∧
          ∃ fault ∈ faults, fault ≠ .storedOffline) ∧
      Bounced f stanza faults s ending after done ∧
      ∀ others, (∀ cause, FirstCause others cause ↔ FirstCause faults cause) →
        bounce f stanza others s = (ending, after) := by
  obtain ⟨ending, after, done, plain, recorded, bounced⟩ := bounced_bounce f stanza faults s
  refine ⟨ending, after, done, plain, recorded, bounced.isSent_iff, bounced, ?_⟩
  intro others same
  rw [← plain, bounce, bounce, reply?_congr same]

end Escalation
end StanzaDelivery
