import StanzaDelivery.Proofs.Session.Changes
import StanzaDelivery.Proofs.Session.Operations

/-! The traffic of inboxes. Whatever is accepted by a session and whatever is drained from it is
noted down, whoever does it. What has been drained is always the beginning of what was accepted;
and while the connection is there, the rest is waiting in the inbox. -/

namespace StanzaDelivery

inductive Note
  | accepted (id : SessionId) (stanza : Stanza)
  | drained (id : SessionId) (stanzas : List Stanza)
  deriving DecidableEq

namespace Note

def acceptedBy (id : SessionId) : Note → List Stanza
  | .accepted other stanza => if other = id then [stanza] else []
  | .drained _ _ => []

def drainedFrom (id : SessionId) : Note → List Stanza
  | .accepted _ _ => []
  | .drained other stanzas => if other = id then stanzas else []

end Note

def acceptedBy (id : SessionId) (notes : List Note) : List Stanza :=
  notes.flatMap (Note.acceptedBy id)

def drainedFrom (id : SessionId) (notes : List Note) : List Stanza :=
  notes.flatMap (Note.drainedFrom id)

section Notes

variable {id other : SessionId} {notes later : List Note} {stanza : Stanza}
  {stanzas : List Stanza}

@[simp] theorem acceptedBy_nil : acceptedBy id [] = [] := rfl

@[simp] theorem drainedFrom_nil : drainedFrom id [] = [] := rfl

@[simp] theorem acceptedBy_append :
    acceptedBy id (notes ++ later) = acceptedBy id notes ++ acceptedBy id later :=
  List.flatMap_append

@[simp] theorem drainedFrom_append :
    drainedFrom id (notes ++ later) = drainedFrom id notes ++ drainedFrom id later :=
  List.flatMap_append

@[simp] theorem acceptedBy_accepted :
    acceptedBy id [.accepted other stanza] = if other = id then [stanza] else [] :=
  List.flatMap_singleton ..

@[simp] theorem drainedFrom_accepted : drainedFrom id [.accepted other stanza] = [] := rfl

@[simp] theorem acceptedBy_drained : acceptedBy id [.drained other stanzas] = [] := rfl

@[simp] theorem drainedFrom_drained :
    drainedFrom id [.drained other stanzas] = if other = id then stanzas else [] :=
  List.flatMap_singleton ..

end Notes

/-- What a change of the session of this number has to note: a stanza that it accepts, or what
its connection gets when it drains the inbox. -/
def Session.Change.notes (id : SessionId) (s : Session) : Session.Change → List Note
  | .accept stanza =>
    match (s.accept stanza).1 with
    | .ok _ => [.accepted id stanza]
    | .error _ => []
  | .drain => (s.drain.1.map (Note.drained id)).toList
  | _ => []

namespace Registry

/-- What an operation has to note. A session may be registered with stanzas in its inbox, which
it accepted before. -/
def Operation.notes (r : Registry) : Operation → List Note
  | .register session => session.inbox.map (Note.accepted r.sessions.length)
  | .change id made => ((r.session? id).map (made.notes id)).getD []
  | _ => []

/-- The inbox of the session of this number holds what has been accepted and not been drained,
unless it is gone with the connection; nobody has accepted anything under a number that is not
in use. -/
structure Exact (r : Registry) (id : SessionId) (accepted drained : List Stanza) : Prop where
  order : drained <+: accepted
  nobody : r.session? id = none → accepted = []
  waiting : ∀ s, r.session? id = some s → s.connected = true → accepted = drained ++ s.inbox

inductive Happens (id : SessionId) (r q : Registry) : List Stanza → List Stanza → Prop
  | nothing (same : q.session? id = r.session? id) : Happens id r q [] []
  | registered (s : Session) (free : r.session? id = none) (now : q.session? id = some s) :
      Happens id r q s.inbox []
  | changed (s after : Session) (was : r.session? id = some s) (now : q.session? id = some after)
      (stays : after.connected = true → s.connected = true ∧ after.inbox = s.inbox) :
      Happens id r q [] []
  | accepted (s : Session) (stanza : Stanza) (was : r.session? id = some s)
      (live : s.connected = true) (now : q.session? id = some (s.put stanza)) :
      Happens id r q [stanza] []
  | drained (s : Session) (was : r.session? id = some s) (live : s.connected = true)
      (now : q.session? id = some { s with inbox := [] }) :
      Happens id r q [] s.inbox

variable {r q : Registry} {id : SessionId} {accepted drained more out : List Stanza}

theorem exact_of_session? {s : Session} (now : r.session? id = some s)
    (order : drained <+: accepted)
    (waiting : s.connected = true → accepted = drained ++ s.inbox) :
    r.Exact id accepted drained := by
  refine ⟨order, fun free => (nomatch now.symm.trans free), ?_⟩
  intro found there live
  cases now.symm.trans there
  exact waiting live

theorem Exact.happens (exact : r.Exact id accepted drained) (step : Happens id r q more out) :
    q.Exact id (accepted ++ more) (drained ++ out) := by
  obtain ⟨order, nobody, waiting⟩ := exact
  cases step with
  | nothing same =>
    rw [List.append_nil, List.append_nil]
    exact ⟨order, same ▸ nobody, same ▸ waiting⟩
  | registered s free now =>
    have empty : accepted = [] := nobody free
    subst empty
    obtain rfl := List.prefix_nil.1 order
    exact exact_of_session? now List.nil_prefix fun _ => rfl
  | changed s after was now stays =>
    rw [List.append_nil, List.append_nil]
    refine exact_of_session? now order fun live => ?_
    obtain ⟨lived, same⟩ := stays live
    rw [same]
    exact waiting s was lived
  | accepted s stanza was live now =>
    rw [List.append_nil]
    refine exact_of_session? now (order.trans (List.prefix_append ..)) fun _ => ?_
    rw [waiting s was live, List.append_assoc]
    rfl
  | drained s was live now =>
    rw [List.append_nil, ← waiting s was live]
    exact exact_of_session? now (List.prefix_refl _) fun _ => (List.append_nil _).symm

theorem acceptedBy_map_accepted (id other : SessionId) (stanzas : List Stanza) :
    acceptedBy id (stanzas.map (Note.accepted other)) =
      if other = id then stanzas else [] := by
  induction stanzas with
  | nil => simp
  | cons stanza rest ih =>
    rw [List.map_cons, ← List.singleton_append, acceptedBy_append, acceptedBy_accepted, ih]
    split <;> rfl

theorem drainedFrom_map_accepted (id other : SessionId) (stanzas : List Stanza) :
    drainedFrom id (stanzas.map (Note.accepted other)) = [] := by
  simp [drainedFrom, Note.drainedFrom, List.flatMap_map]

theorem notes_of_ne {other : SessionId} (apart : other ≠ id) (s : Session)
    (change : Session.Change) :
    acceptedBy id (change.notes other s) = [] ∧ drainedFrom id (change.notes other s) = [] := by
  cases change with
  | accept stanza =>
    simp only [Session.Change.notes]
    split <;> simp [apart]
  | drain =>
    simp only [Session.Change.notes]
    cases s.drain.1 <;> simp [apart]
  | setPriority priority => exact ⟨rfl, rfl⟩
  | setState state => exact ⟨rfl, rfl⟩
  | hangUp => exact ⟨rfl, rfl⟩

theorem happens_change {s : Session} (change : Session.Change) (was : r.session? id = some s)
    (now : q.session? id = some (change.apply s)) :
    Happens id r q (acceptedBy id (change.notes id s)) (drainedFrom id (change.notes id s)) := by
  cases change with
  | setPriority priority => exact .changed s _ was now fun live => ⟨live, rfl⟩
  | setState state => exact .changed s _ was now fun live => ⟨live, rfl⟩
  | hangUp => exact .changed s _ was now fun live => nomatch live
  | accept stanza =>
    simp only [Session.Change.notes, Session.Change.apply] at now ⊢
    rcases s.accept_eq_or stanza with ⟨live, taken⟩ | ⟨fault, refused⟩
    · rw [taken] at now ⊢
      simpa using Happens.accepted s stanza was live now
    · rw [refused] at now ⊢
      exact .nothing (now.trans was.symm)
  | drain =>
    simp only [Session.Change.notes, Session.Change.apply] at now ⊢
    rcases s.drain_eq_or with ⟨live, all⟩ | nothing
    · rw [all] at now ⊢
      simpa using Happens.drained s was live now
    · rw [nothing] at now ⊢
      exact .nothing (now.trans was.symm)

theorem happens_perform (r : Registry) (op : Operation) (id : SessionId) :
    Happens id r (r.perform op) (acceptedBy id (op.notes r)) (drainedFrom id (op.notes r)) := by
  cases op with
  | unregister address => exact .nothing rfl
  | cleanUp => exact .nothing rfl
  | register session =>
    simp only [Operation.notes]
    rw [acceptedBy_map_accepted, drainedFrom_map_accepted]
    by_cases here : r.sessions.length = id
    · rw [if_pos here]
      subst here
      exact .registered session (List.getElem?_eq_none (Nat.le_refl _))
        (session?_register_self r session)
    · rw [if_neg here]
      cases known : r.session? id with
      | some s => exact .nothing ((session?_register_of_some session known).trans known.symm)
      | none =>
        have beyond : r.sessions.length < id :=
          Nat.lt_of_le_of_ne (List.getElem?_eq_none_iff.1 known) here
        refine .nothing ((List.getElem?_eq_none ?_).trans known.symm)
        simpa [perform] using Nat.succ_le_of_lt beyond
  | change other made =>
    simp only [Operation.notes]
    have after := session?_update r other id made.apply
    by_cases here : other = id
    · subst here
      cases was : r.session? other with
      | none => exact .nothing (by rw [perform, after, was]; rfl)
      | some s =>
        rw [was] at after
        exact happens_change made was (by simpa [perform] using after)
    · have same : (r.perform (.change other made)).session? id = r.session? id := by
        rw [perform, after]
        simp [here]
      cases was : r.session? other with
      | none => exact .nothing same
      | some s =>
        obtain ⟨accepts, drains⟩ := notes_of_ne here s made
        simp only [Option.map_some, Option.getD_some, accepts, drains]
        exact .nothing same

end Registry
end StanzaDelivery
