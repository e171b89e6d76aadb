import StanzaDelivery.Proofs.Engine.Bouncing
import StanzaDelivery.Proofs.Engine.Outcomes
import StanzaDelivery.Proofs.Session.Traffic

/-! What an engine puts into inboxes. Between any two turns, anybody may do to the sessions what
can be done to them: change their state and priority, put stanzas into their inboxes and drain
those, hang up, come and go. What counts for a stanza is the session as it is when the stanza is
handed off. -/

namespace StanzaDelivery

open Registry

namespace Handover

def Target.lands (deliver : Deliverer) (stanza : Stanza) (r : Registry) (target : Target) : Bool :=
  (r.session? target.id).isSome && (target.fault? deliver stanza r).isNone

def notes (deliver : Deliverer) (stanza : Stanza) (targets : List Target) (r : Registry) :
    List Note :=
  (targets.filter (Target.lands deliver stanza r)).map fun target => .accepted target.id stanza

section Notes

variable {deliver : Deliverer} {stanza : Stanza} {targets : List Target} {r : Registry}
  {id : SessionId}

theorem drainedFrom_notes : drainedFrom id (notes deliver stanza targets r) = [] := by
  simp [notes, drainedFrom, Note.drainedFrom, List.flatMap_map]

theorem acceptedBy_notes_of_notMem (other : id ∉ targets.map (·.id)) :
    acceptedBy id (notes deliver stanza targets r) = [] := by
  apply List.flatMap_eq_nil_iff.2
  intro note member
  obtain ⟨target, there, rfl⟩ := List.mem_map.1 member
  have apart : target.id ≠ id := fun same =>
    other (List.mem_map.2 ⟨target, (List.mem_filter.1 there).1, same⟩)
  simp [Note.acceptedBy, apart]

theorem notes_cons (target : Target) :
    notes deliver stanza (target :: targets) r =
      (if target.lands deliver stanza r then [.accepted target.id stanza] else []) ++
        notes deliver stanza targets r := by
  rw [notes, List.filter_cons]
  split <;> rfl

theorem acceptedBy_notes_of_mem (distinct : (targets.map (·.id)).Nodup) {target : Target}
    (member : target ∈ targets) :
    acceptedBy target.id (notes deliver stanza targets r) =
      if target.lands deliver stanza r then [stanza] else [] := by
  induction targets with
  | nil => cases member
  | cons first rest ih =>
    obtain ⟨apart, distinct⟩ := List.nodup_cons.1 distinct
    rw [notes_cons, acceptedBy_append]
    rcases List.mem_cons.1 member with rfl | later
    · rw [acceptedBy_notes_of_notMem apart, List.append_nil]
      split <;> simp
    · have other : first.id ≠ target.id := fun same =>
        apart (List.mem_map.2 ⟨target, later, same.symm⟩)
      rw [ih distinct later]
      split <;> simp [other]

theorem happens_attemptAll (stanza : Stanza) (distinct : (targets.map (·.id)).Nodup)
    (r : Registry) (id : SessionId) :
    Happens id r (attemptAll handoff stanza targets r).2
      (acceptedBy id (notes handoff stanza targets r))
      (drainedFrom id (notes handoff stanza targets r)) := by
  rw [drainedFrom_notes]
  by_cases aimed : id ∈ targets.map (·.id)
  · obtain ⟨target, member, rfl⟩ := List.mem_map.1 aimed
    have after := session?_attemptAll_of_mem handoff stanza distinct member r
    rw [acceptedBy_notes_of_mem distinct member, Target.lands, Target.fault?]
    cases was : r.session? target.id with
    | none => exact .nothing (by rw [after, was]; rfl)
    | some s =>
      rw [was, Option.map_some] at after
      have answer := answered_attempt stanza target.eligible s
      rw [Option.isSome_some, Option.bind_some, Bool.true_and]
      generalize attempt handoff stanza target.eligible s = result at answer after ⊢
      obtain ⟨fault?, now⟩ := result
      cases answer with
      | taken fit state live room => exact .accepted s stanza was live after
      | refused fault kind cause => exact .nothing (after.trans was.symm)
  · rw [acceptedBy_notes_of_notMem aimed]
    exact .nothing (session?_attemptAll_of_notMem handoff stanza aimed r)

end Notes

end Handover

namespace Engine

open Handover Routing

variable {start e next : Engine} {notes : List Note} {history : List Event}

def turnNotes (e : Engine) : List Note :=
  match e.pool.turn with
  | some (_, some job) =>
    if e.waits job then []
    else Handover.notes e.deliverer job.task.stanza (e.targetsFor job) e.site.registry
  | _ => []

def operated (e : Engine) (op : Operation) : Engine :=
  { e with site := { e.site with registry := e.site.registry.perform op } }

/-- The course of an engine with the notes about it. Whatever the sessions go through between two
moves of the engine is a sequence of operations. -/
inductive Course (start : Engine) : List Note → Engine → Prop
  | start : Course start [] start
  | relay {notes : List Note} {e : Engine} (address : Address) (stanza : Stanza)
      (escalation : Escalation) (before : Course start notes e) :
      Course start notes (e.relay address stanza escalation).2
  | turn {notes : List Note} {e next : Engine} (before : Course start notes e)
      (turn : e.turn = some next) : Course start (notes ++ e.turnNotes) next
  | operate {notes : List Note} {e : Engine} (op : Operation) (before : Course start notes e) :
      Course start (notes ++ op.notes e.site.registry) (e.operated op)
  | outside {notes : List Note} {e after : Engine} (before : Course start notes e)
      (outside : e.Outside after) (same : after.site.registry = e.site.registry) :
      Course start notes after

theorem changed_perform (r : Registry) (op : Operation) : r.Changed (r.perform op) := by
  cases op with
  | register session => exact .register session .none
  | unregister address => exact .unregister address .none
  | change id made => exact .update id _ made.address_apply .none
  | cleanUp => exact .cleanUp .none

theorem Course.reached (course : Course start notes e) (new : New start) :
    ∃ history, Reached history e := by
  induction course with
  | start => exact ⟨_, new.reached⟩
  | relay address stanza escalation before ih =>
    obtain ⟨history, reached⟩ := ih
    exact ⟨_, reached.relay address stanza escalation⟩
  | turn before turn ih =>
    obtain ⟨history, reached⟩ := ih
    exact ⟨_, reached.turn turn⟩
  | @operate notes e op before ih =>
    obtain ⟨history, reached⟩ := ih
    exact ⟨_, reached.outside
      (.furnish { e.site with registry := _ } (changed_perform e.site.registry op))⟩
  | outside before outside same ih =>
    obtain ⟨history, reached⟩ := ih
    exact ⟨_, reached.outside outside⟩

theorem traffic_turn (turn : e.turn = some next) :
    e.turnNotes = [] ∧ executions e.turnEvents = [] ∧ next.site.registry = e.site.registry ∨
    ∃ pool job, job ∈ e.pool.unfinished ∧
      executions e.turnEvents = [(e.taking pool).execution job] ∧
      e.turnNotes =
        Handover.notes e.deliverer job.task.stanza (e.targetsFor job) e.site.registry ∧
      next.site.registry =
        (attemptAll e.deliverer job.task.stanza (e.targetsFor job) e.site.registry).2 := by
  rcases pool_turn_of_turn turn with
    ⟨pool, taken, _, rfl⟩ | ⟨pool, job, _, taken, turned, ⟨waits, rfl⟩ | ⟨free, rfl⟩⟩
  · rw [turnNotes, turnEvents, taken]
    exact .inl ⟨rfl, rfl, rfl⟩
  · simp only [turnNotes, turnEvents, taken]
    rw [waits]
    exact .inl ⟨rfl, rfl, rfl⟩
  · simp only [turnNotes, turnEvents, taken, free, Bool.false_eq_true, if_false]
    refine .inr ⟨pool, job, turned.unfinished_perm.symm.subset (List.mem_cons_self ..),
      executions_workEvents .., rfl, ?_⟩
    exact (kept_concluded (e.taking pool) job).registry.trans
      (registry_routed (e.taking pool) job)

theorem Isolated.happens_turn (isolated : Isolated history e) (handing : e.deliverer = handoff)
    (turn : e.turn = some next) (id : SessionId) :
    Happens id e.site.registry next.site.registry (acceptedBy id e.turnNotes)
      (drainedFrom id e.turnNotes) := by
  rcases traffic_turn turn with ⟨quiet, _, same⟩ | ⟨pool, job, there, _, noted, attempted⟩
  · rw [quiet, same]
    exact .nothing rfl
  · rw [noted, attempted, handing]
    exact happens_attemptAll _ (isolated.targeted there).distinct _ _

theorem Course.exact (course : Course start notes e) (new : New start)
    (handing : e.deliverer = handoff) (id : SessionId) :
    e.site.registry.Exact id (start.site.registry.inbox id ++ acceptedBy id notes)
      (drainedFrom id notes) := by
  induction course with
  | start =>
    simp only [acceptedBy_nil, List.append_nil, drainedFrom_nil]
    refine ⟨List.nil_prefix, ?_, ?_⟩
    · intro free
      rw [inbox, free]
      rfl
    · intro s known _
      exact inbox_of_session? known
  | relay address stanza escalation before ih =>
    obtain ⟨_, deliverer, site⟩ := (relayed_relay _ address stanza escalation).equipment
    rw [site]
    exact ih (deliverer.symm.trans handing)
  | turn before turn ih =>
    obtain ⟨history, reached⟩ := before.reached new
    rw [(turned_of_turn turn).lasting.deliverer] at handing
    rw [acceptedBy_append, drainedFrom_append, ← List.append_assoc]
    exact (ih handing).happens ((reached.isolated handing).happens_turn handing turn id)
  | operate op before ih =>
    rw [acceptedBy_append, drainedFrom_append, ← List.append_assoc]
    exact (ih handing).happens (happens_perform _ op id)
  | outside before outside same ih =>
    rw [same]
    exact ih (outside.still.deliverer.symm.trans handing)

theorem Outside.gate_eq_none {after : Engine} (outside : e.Outside after)
    (open_ : after.gate = none) : e.gate = none := by
  cases outside with
  | shut => exact Option.map_eq_none_iff.1 open_
  | unlock => exact Option.map_eq_none_iff.1 open_
  | takeOutcome handle =>
    unfold Engine.takeOutcome at open_
    split at open_
    · exact open_
    · exact open_
  | furnish site changed => exact open_
  | pass ms => exact open_
  | setMaxWorkers n set => exact open_
  | setKeepAlive ms => exact open_
  | throughput => exact open_
  | stop => exact open_

theorem Reached.not_held (reached : Reached history e) (open_ : e.gate = none) (task : Task)
    (targets : List Target) : .held task targets ∉ e.pool.unfinished := by
  induction reached with
  | new router deliverer gate keepsCopies keepsLog site launched built =>
    obtain ⟨_, rfl⟩ := launched_eq launched
    exact List.not_mem_nil
  | @relay history e address stanza escalation before ih =>
    have relayed := e.relayed_relay address stanza escalation
    exact fun member => ih (relayed.gate.symm.trans open_) (relayed.held_before member)
  | turn before turn ih =>
    have turned := turned_of_turn turn
    have open_ := turned.lasting.gate.symm.trans open_
    intro member
    rcases turned.mem_unfinished member with old | ⟨_, _, _, _, reply⟩ | ⟨job, _, waits, _⟩
    · exact ih open_ old
    · cases reply
    · cases job with
      | held other looked => cases waits
      | fresh other => cases (mustWait_eq_true waits).symm.trans open_
  | outside before outside ih =>
    exact fun member =>
      ih (outside.gate_eq_none open_) (outside.still.unfinished.subset member)

theorem eligible_of_fresh {task : Task} {target : Target}
    (member : target ∈ e.targetsFor (.fresh task)) {s : Session}
    (known : e.site.registry.session? target.id = some s) :
    target.eligible = s.isAuthenticated := by
  rw [targetsFor] at member
  split at member
  next ids _ =>
    obtain ⟨id, _, rfl⟩ := List.mem_map.1 member
    have known : e.site.registry.session? id = some s := known
    simp [targetOf, known]
  next => cases member

/-- What carrying out a job comes to. Every session that it attempts either takes the stanza, or
stays as it is and adds one fault to the report. All other sessions stay as they are. The report
is the task's outcome, unless the escalation of the faults ends badly. -/
structure HandsOff (e next : Engine) (job : Job) (x : Execution) : Prop where
  distinct : ((e.targetsFor job).map (·.id)).Nodup
  answered : ∀ target ∈ e.targetsFor job, ∃ s now,
    e.site.registry.session? target.id = some s ∧
    next.site.registry.session? target.id = some now ∧
    (e.gate = none → target.eligible = s.isAuthenticated) ∧
    Answered job.task.stanza target.eligible s
      (target.fault? handoff job.task.stanza e.site.registry) now ∧
    acceptedBy target.id e.turnNotes =
      if (target.fault? handoff job.task.stanza e.site.registry).isNone then [job.task.stanza]
      else []
  others : ∀ id, id ∉ (e.targetsFor job).map (·.id) →
    next.site.registry.session? id = e.site.registry.session? id ∧ acceptedBy id e.turnNotes = []
  reported : e.targetsFor job ≠ [] → ∃ report,
    report = .attempted ((e.targetsFor job).filterMap
      (Target.fault? handoff job.task.stanza e.site.registry)) ∧
    x.resolution = .reported report ∧
    (x.outcome = some report ∨
      report.faults ≠ [] ∧ ∃ ending, ending ≠ .done ∧
        x.outcome = some (escalated report ending))

theorem handsOff_of_turn (reached : Reached history e) (handing : e.deliverer = handoff)
    {pool : Pool Job} {job : Job} (there : job ∈ e.pool.unfinished)
    (noted : e.turnNotes =
      Handover.notes e.deliverer job.task.stanza (e.targetsFor job) e.site.registry)
    (attempted : next.site.registry =
      (attemptAll e.deliverer job.task.stanza (e.targetsFor job) e.site.registry).2) :
    e.HandsOff next job ((e.taking pool).execution job) := by
  have targeted := (reached.isolated handing).targeted there
  rw [handing] at noted attempted
  refine ⟨targeted.distinct, ?_, ?_, ?_⟩
  · intro target member
    obtain ⟨s, known, _⟩ := targeted.bound target member
    have after := session?_attemptAll_of_mem handoff job.task.stanza targeted.distinct member
      e.site.registry
    rw [← attempted, known, Option.map_some] at after
    refine ⟨s, _, known, after, ?_, ?_, ?_⟩
    · intro open_
      cases job with
      | held task targets => exact absurd there (reached.not_held open_ task targets)
      | fresh task => exact eligible_of_fresh member known
    · rw [Target.fault?, known]
      exact answered_attempt job.task.stanza target.eligible s
    · rw [noted, acceptedBy_notes_of_mem targeted.distinct member, Target.lands, known]
      simp
  · intro id other
    rw [noted, acceptedBy_notes_of_notMem other, attempted]
    exact ⟨session?_attemptAll_of_notMem handoff job.task.stanza other e.site.registry, rfl⟩
  · intro some
    have report : ((e.taking pool).routed job).1 = .reported (.attempted
        (attemptAll e.deliverer job.task.stanza (e.targetsFor job) e.site.registry).1) :=
      routed_attempted some
    have outcome : ((e.taking pool).execution job).outcome = outcomeOf job.task
        ((e.taking pool).routed job).1
        { e.taking pool with site := ((e.taking pool).routed job).2 } := rfl
    rw [handing, attemptAll_fst handoff job.task.stanza targeted.distinct] at report
    refine ⟨_, rfl, report, ?_⟩
    rw [outcome, report]
    exact outcomeOf_reported ..

/-- Inboxes are exact, whatever happens to the sessions between any two moves of an engine that
hands off. Only turns put stanzas into inboxes. A session takes a stanza only if it is
authenticated and connected, with room in its inbox, when the stanza is handed off to it; one
that is not stays as it is and adds one fault to the report. What has been drained from a session
is what it accepted, in the same order, up to what waits in its inbox while it is connected. What
an inbox held in the beginning counts as accepted. -/
theorem inboxes_are_exact (new : New start) (course : Course start notes e)
    (handing : e.deliverer = handoff) :
    (∀ address stanza escalation,
      (e.relay address stanza escalation).2.site.registry = e.site.registry) ∧
    (∀ next, e.turn = some next →
      e.turnNotes = [] ∧ executions e.turnEvents = [] ∧ next.site.registry = e.site.registry ∨
      ∃ job x, executions e.turnEvents = [x] ∧ x.task = job.task ∧ e.HandsOff next job x) ∧
    ∀ id,
      drainedFrom id notes <+: start.site.registry.inbox id ++ acceptedBy id notes ∧
      ∀ s, e.site.registry.session? id = some s → s.connected = true →
        start.site.registry.inbox id ++ acceptedBy id notes = drainedFrom id notes ++ s.inbox := by
  obtain ⟨history, reached⟩ := course.reached new
  refine ⟨?_, ?_, ?_⟩
  · intro address stanza escalation
    rw [(relayed_relay e address stanza escalation).equipment.2.2]
  · intro next turn
    rcases traffic_turn turn with quiet | ⟨pool, job, there, executed, noted, attempted⟩
    · exact .inl quiet
    · exact .inr ⟨job, _, executed, rfl, handsOff_of_turn reached handing there noted attempted⟩
  · intro id
    obtain ⟨order, _, waiting⟩ := course.exact new handing id
    exact ⟨order, waiting⟩

/-- A letter for the telephone, whose session leaves its state and comes back before the engine
looks at the letter. -/
def letter : Stanza :=
  .message ⟨.chat, some telephone.toAddress, none, some "m2", none, none⟩

def letterBox : Engine := (emptyPostOffice.relay telephone.toAddress letter (.single .ignore)).2

def letterBoxBack : Engine :=
  (letterBox.operated (.change 0 (.setState .ended))).operated
    (.change 0 (.setState .authenticated))

theorem inboxes_are_exact_at_telephone :
    ∃ start notes e s, New start ∧ Course start notes e ∧ e.deliverer = handoff ∧
      e.site.registry.session? 0 = some s ∧ s.connected = true ∧ s.inbox = [] ∧
      acceptedBy 0 notes = [letter] ∧ drainedFrom 0 notes = [letter] := by
  have asked : Course emptyPostOffice [] letterBox := Course.start.relay ..
  have back : Course emptyPostOffice [] letterBoxBack :=
    (asked.operate (.change 0 (.setState .ended))).operate (.change 0 (.setState .authenticated))
  have busy : letterBoxBack.turn.isSome = true := by decide +kernel
  obtain ⟨next, turn⟩ := Option.isSome_iff_exists.1 busy
  have course := (back.turn turn).operate (.change 0 .drain)
  have handing : (next.operated (.change 0 .drain)).deliverer = handoff :=
    (turned_of_turn turn).lasting.deliverer
  have drained : (next.operated (.change 0 .drain)).site.registry.session? 0 =
      some (telephoneEntry 0).session := by
    cases turn
    decide +kernel
  have accepted : acceptedBy 0 ([] ++ letterBoxBack.turnNotes ++
      Operation.notes next.site.registry (.change 0 .drain)) = [letter] := by
    cases turn
    decide +kernel
  obtain ⟨_, _, traffic⟩ := inboxes_are_exact new_emptyPostOffice course handing
  have all := (traffic 0).2 _ drained rfl
  have vacant : emptyPostOffice.site.registry.inbox 0 = [] := rfl
  have nothing : (telephoneEntry 0).session.inbox = [] := rfl
  rw [vacant, nothing, List.nil_append, List.append_nil, accepted] at all
  exact ⟨_, _, _, _, new_emptyPostOffice, course, handing, drained, rfl, nothing, accepted,
    all.symm⟩

end Engine
end StanzaDelivery
