import StanzaDelivery.Proofs.Engine.Backing
import StanzaDelivery.Proofs.Session.Changes

/-! The course of an engine: the states that it goes through, move by move, with a history
of the requests that were made to it and of the tasks that it has carried out. Every turn
is a move of its own, and the outside may do what it likes between any two turns. -/

namespace StanzaDelivery.Engine

open scoped List

/-- A task that has been carried out: what its routing came to, what its handle got to know,
and what was put into each inbox. -/
structure Execution where
  task : Task
  resolution : Resolution
  outcome : Option Report
  arrivals : SessionId → List Stanza

/-- A request of the outside is answered, a task is carried out, or the escalation of a task
asks for a reply to be relayed and gets an answer. -/
inductive Event
  | asked (task : Task) (answer : Option Pool.Admission)
  | executed (execution : Execution)
  | replied (cause : Task) (destination : Address) (reply : Stanza) (answer : Except Fault Unit)

def Event.isAsked : Event → Bool
  | .asked _ _ => true
  | _ => false

def arrivals (before after : Registry) (id : SessionId) : List Stanza :=
  (after.inbox id).drop (before.inbox id).length

def execution (e : Engine) (job : Job) : Execution where
  task := job.task
  resolution := (e.routed job).1
  outcome := outcomeOf job.task (e.routed job).1 { e with site := (e.routed job).2 }
  arrivals := arrivals e.site.registry (e.routed job).2.registry

def deedsFor (e : Engine) (job : Job) : List Escalation.Deed :=
  dealings job.task (e.routed job).1 { e with site := (e.routed job).2 }

def replied? (cause : Task) : Escalation.Deed → Option Event
  | .sent destination reply answer => some (.replied cause destination reply answer)
  | _ => none

def workEvents (e : Engine) (job : Job) : List Event :=
  .executed (e.execution job) :: (e.deedsFor job).filterMap (replied? job.task)

theorem eq_replied_of_mem {cause : Task} {deeds : List Escalation.Deed} {event : Event}
    (member : event ∈ deeds.filterMap (replied? cause)) :
    ∃ destination reply answer, .sent destination reply answer ∈ deeds ∧
      event = .replied cause destination reply answer := by
  obtain ⟨deed, done, known⟩ := List.mem_filterMap.1 member
  unfold replied? at known
  split at known
  next destination reply answer =>
    cases known
    exact ⟨destination, reply, answer, done, rfl⟩
  next => cases known

def turnEvents (e : Engine) : List Event :=
  match e.pool.turn with
  | some (pool, some job) => if e.waits job then [] else (e.taking pool).workEvents job
  | _ => []

theorem kept_concluded (e : Engine) (job : Job) :
    Kept { e with
      site := (e.routed job).2
      handles := settledHandles job.task (e.execution job).outcome e.handles }
      (e.concluded job) := by
  have kept := kept_dealt job.task (e.routed job).1 { e with site := (e.routed job).2 }
  obtain ⟨metrics, same⟩ :=
    conclude_eq job.task (e.routed job).1 { e with site := (e.routed job).2 }
  rw [concluded, same]
  exact ⟨kept.router, kept.deliverer, kept.gate, kept.keepsCopies, kept.keepsLog, kept.running,
    kept.registry, rfl⟩

theorem length_handles_concluded (e : Engine) (job : Job) :
    (e.concluded job).handles.length = e.handles.length := by
  rw [(kept_concluded e job).handles]
  exact length_settledHandles ..

theorem intake_concluded (e : Engine) (job : Job) :
    TakesIn e.pool (e.deedsFor job) (e.concluded job) := by
  obtain ⟨metrics, same⟩ :=
    conclude_eq job.task (e.routed job).1 { e with site := (e.routed job).2 }
  rw [concluded, same]
  exact intake_dealt job.task (e.routed job).1 { e with site := (e.routed job).2 }

/-- What a turn of an engine can come to: nothing is worked on, or a job is that has to
wait, or a job is that comes to its end. -/
inductive Turned (e : Engine) : Engine → List Event → Prop
  | quiet (pool : Pool Job) (turned : e.pool.Turned pool none none) :
      Turned e { e with pool := pool } []
  | waiting (pool : Pool Job) (job : Job) (began : Option Job)
      (turned : e.pool.Turned pool (some job) began) (waits : e.waits job = true) :
      Turned e { e.taking pool with pool := pool.suspend (.held job.task (e.targetsFor job)) } []
  | ending (pool : Pool Job) (job : Job) (began : Option Job)
      (turned : e.pool.Turned pool (some job) began) (free : e.waits job = false) :
      Turned e ((e.taking pool).concluded job).retire ((e.taking pool).workEvents job)

theorem pool_turn_of_turn {e next : Engine} (turn : e.turn = some next) :
    (∃ pool, e.pool.turn = some (pool, none) ∧ e.pool.Turned pool none none ∧
      next = { e with pool := pool }) ∨
    ∃ pool job began, e.pool.turn = some (pool, some job) ∧
      e.pool.Turned pool (some job) began ∧
      (e.waits job = true ∧
        next = { e.taking pool with
          pool := pool.suspend (.held job.task (e.targetsFor job)) } ∨
      e.waits job = false ∧ next = ((e.taking pool).concluded job).retire) := by
  rw [← Backing.turn_own] at turn
  simpa only [Backing.concluded_own] using Backing.pool_turn_of_turn turn

theorem turned_of_turn {e next : Engine} (turn : e.turn = some next) :
    e.Turned next e.turnEvents := by
  rcases pool_turn_of_turn turn with
    ⟨pool, taken, turned, rfl⟩ | ⟨pool, job, _, taken, turned, ⟨waits, rfl⟩ | ⟨free, rfl⟩⟩
  · simp only [turnEvents, taken]
    exact .quiet pool turned
  · simp only [turnEvents, taken, waits, if_true]
    exact .waiting pool job _ turned waits
  · simp only [turnEvents, taken, free, Bool.false_eq_true, if_false]
    exact .ending pool job _ turned free

theorem executed_mem_turnEvents {e : Engine} {pool : Pool Job} {job : Job}
    (turn : e.pool.turn = some (pool, some job)) (free : e.waits job = false) :
    .executed ((e.taking pool).execution job) ∈ e.turnEvents := by
  simp only [turnEvents, turn, free, Bool.false_eq_true, if_false]
  exact List.mem_cons_self ..

theorem turn_eq_run_one {e : Engine} (busy : e.turn.isSome = true) : e.turn = some (run 1 e) := by
  obtain ⟨next, turn⟩ := Option.isSome_iff_exists.1 busy
  rw [run, turn]
  rfl

structure Lasting (e next : Engine) : Prop where
  router : next.router = e.router
  deliverer : next.deliverer = e.deliverer
  gate : next.gate = e.gate
  handles : next.handles.length = e.handles.length

theorem Turned.lasting {e next : Engine} {events : List Event} (turned : e.Turned next events) :
    e.Lasting next := by
  cases turned with
  | quiet pool turned => exact ⟨rfl, rfl, rfl, rfl⟩
  | waiting pool job began turned waits => exact ⟨rfl, rfl, rfl, rfl⟩
  | ending pool job began turned free =>
    have kept := kept_concluded (e.taking pool) job
    exact ⟨kept.router, kept.deliverer, kept.gate, length_handles_concluded (e.taking pool) job⟩

theorem unfinished_waiting {e : Engine} {pool : Pool Job} {job : Job} {began : Option Job}
    (turned : e.pool.Turned pool (some job) began) (later : Job) :
    (job :: (pool.suspend later).unfinished).Perm (later :: e.pool.unfinished) := by
  rw [Pool.unfinished_suspend]
  calc
    job :: (pool.unfinished ++ [later])
    _ ~ job :: later :: pool.unfinished := (List.perm_append_singleton _ _).cons _
    _ ~ later :: job :: pool.unfinished := .swap ..
    _ ~ later :: e.pool.unfinished := turned.unfinished_perm.symm.cons _

theorem unfinished_ending {e : Engine} {pool : Pool Job} {job : Job} {began : Option Job}
    (turned : e.pool.Turned pool (some job) began) :
    ∃ replies, replies.Sublist (((e.taking pool).deedsFor job).filterMap replyJob?) ∧
      (job :: ((e.taking pool).concluded job).retire.pool.unfinished).Perm
        (replies ++ e.pool.unfinished) := by
  obtain ⟨replies, sent, intake⟩ := intake_concluded (e.taking pool) job
  exact ⟨replies, sent, ending_perm turned intake⟩

theorem Turned.mem_unfinished {e next : Engine} {events : List Event}
    (turned : e.Turned next events) {job : Job} (there : job ∈ next.pool.unfinished) :
    job ∈ e.pool.unfinished ∨
      (∃ cause destination reply, .replied cause destination reply (.ok ()) ∈ events ∧
        job = .fresh (replyTask destination reply)) ∨
      ∃ before ∈ e.pool.unfinished, e.waits before = true ∧
        job = .held before.task (e.targetsFor before) := by
  cases turned with
  | quiet pool turned => exact .inl (turned.unfinished_perm.symm.subset there)
  | waiting pool before began turned waits =>
    have taken : before ∈ e.pool.unfinished :=
      turned.unfinished_perm.symm.subset (List.mem_cons_self ..)
    have either := (unfinished_waiting turned _).subset (List.mem_cons_of_mem _ there)
    rcases List.mem_cons.1 either with held | old
    · exact .inr (.inr ⟨before, taken, waits, held⟩)
    · exact .inl old
  | ending pool before began turned free =>
    obtain ⟨replies, sent, parts⟩ := unfinished_ending turned
    rcases List.mem_append.1 (parts.subset (List.mem_cons_of_mem _ there)) with new | old
    · obtain ⟨deed, done, reply⟩ := List.mem_filterMap.1 (sent.subset new)
      obtain ⟨destination, stanza, rfl, rfl⟩ := replyJob?_eq_some reply
      refine .inr (.inl ⟨before.task, destination, stanza, ?_, rfl⟩)
      exact List.mem_cons_of_mem _ (List.mem_filterMap.2 ⟨_, done, rfl⟩)
    · exact .inl old

theorem Turned.mem_events {e next : Engine} {events : List Event}
    (turned : e.Turned next events) {event : Event} (member : event ∈ events) :
    ∃ pool job, job ∈ e.pool.unfinished ∧
      .executed ((e.taking pool).execution job) ∈ events ∧
      (event = .executed ((e.taking pool).execution job) ∨
        ∃ destination reply answer,
          .sent destination reply answer ∈ (e.taking pool).deedsFor job ∧
            event = .replied job.task destination reply answer) := by
  cases turned with
  | quiet pool turned => cases member
  | waiting pool job began turned waits => cases member
  | ending pool job began turned free =>
    refine ⟨pool, job, turned.unfinished_perm.symm.subset (List.mem_cons_self ..),
      List.mem_cons_self .., ?_⟩
    rcases List.mem_cons.1 member with first | later
    · exact .inl first
    · exact .inr (eq_replied_of_mem later)

theorem Turned.isAsked_eq_false {e next : Engine} {events : List Event}
    (turned : e.Turned next events) :
    ∀ event ∈ events, event.isAsked = false := by
  intro event member
  obtain ⟨pool, job, _, _, rfl | ⟨destination, reply, answer, _, rfl⟩⟩ := turned.mem_events member
  · rfl
  · rfl

inductive Outside (e : Engine) : Engine → Prop
  | furnish (site : Site) (changed : e.site.registry.Changed site.registry) :
      Outside e { e with site := site }
  | shut : Outside e { e with gate := e.gate.map fun _ => false }
  | unlock : Outside e { e with
      gate := e.gate.map fun _ => true
      pool := e.pool.resume fun _ => true }
  | takeOutcome (handle : Nat) : Outside e (e.takeOutcome handle).2
  | pass (ms : Nat) : Outside e { e with pool := e.pool.pass ms }
  | setMaxWorkers {pool : Pool Job} (n : UInt64) (set : e.pool.setMaxWorkers n = .ok pool) :
      Outside e { e with pool := pool }
  | setKeepAlive (ms : Nat) : Outside e { e with pool := e.pool.setKeepAlive ms }
  | throughput : Outside e { e with pool := e.pool.takeThroughput.2 }
  | stop : Outside e e.stop

inductive Reached : List Event → Engine → Prop
  | new {scheduled : Bool} {settings : Pool.Settings} {pool : Pool Job} (router : Router)
      (deliverer : Handover.Deliverer) (gate : Option Bool) (keepsCopies keepsLog : Bool)
      (site : Site) (launched : Pool.launch scheduled settings = .launched pool)
      (built : site.registry.Built) :
      Reached [] (empty router deliverer gate keepsCopies keepsLog site pool)
  | relay {history : List Event} {e : Engine} (address : Address) (stanza : Stanza)
      (escalation : Escalation) (before : Reached history e) :
      Reached
        (history ++ [.asked ⟨address, stanza, escalation, some e.handles.length⟩
          (e.offer ⟨address, stanza, escalation, some e.handles.length⟩).1])
        (e.relay address stanza escalation).2
  | turn {history : List Event} {e next : Engine} (before : Reached history e)
      (turn : e.turn = some next) : Reached (history ++ e.turnEvents) next
  | outside {history : List Event} {e after : Engine} (before : Reached history e)
      (outside : e.Outside after) : Reached history after

/-- What a request can come to: it is refused, or the pool answers it and it gets a handle. -/
inductive Relayed (e : Engine) (task : Task) : Option Pool.Admission → Engine → Prop
  | refused (stopped : e.running = false ∨ e.pool.closed = true) : Relayed e task none e
  | answered (admission : Pool.Admission) (pool : Pool Job) (running : e.running = true)
      (submitted : e.pool.Submitted (.fresh task) admission pool) :
      Relayed e task (some admission) { e with
        pool := pool
        log := e.logged task
        metrics := countAdmission admission task.stanza.kind e.metrics
        handles := e.handles ++ [handleFor admission] }

theorem relayed_relay (e : Engine) (address : Address) (stanza : Stanza)
    (escalation : Escalation) :
    e.Relayed ⟨address, stanza, escalation, some e.handles.length⟩
      (e.offer ⟨address, stanza, escalation, some e.handles.length⟩).1
      (e.relay address stanza escalation).2 := by
  unfold relay
  have offered := e.offered_offer ⟨address, stanza, escalation, some e.handles.length⟩
  generalize e.offer ⟨address, stanza, escalation, some e.handles.length⟩ = answer at offered ⊢
  obtain ⟨admission, after⟩ := answer
  cases offered with
  | refused stopped => exact .refused stopped
  | answered admission pool running submitted => exact .answered admission pool running submitted

section Relayed

variable {e after : Engine} {task : Task} {admission : Option Pool.Admission}

theorem Relayed.equipment (relayed : e.Relayed task admission after) :
    after.router = e.router ∧ after.deliverer = e.deliverer ∧ after.site = e.site := by
  cases relayed <;> exact ⟨rfl, rfl, rfl⟩

theorem Relayed.gate (relayed : e.Relayed task admission after) : after.gate = e.gate := by
  cases relayed <;> rfl

theorem Relayed.length_handles (relayed : e.Relayed task admission after) :
    after.handles.length = e.handles.length + admission.toList.length := by
  cases relayed with
  | refused stopped => rfl
  | answered admission pool running submitted => simp

theorem Relayed.unfinished_perm (relayed : e.Relayed task admission after) :
    after.pool.unfinished.Perm e.pool.unfinished ∨
      ∃ admitted, admission = some admitted ∧ admitted ≠ .rejected ∧
        after.pool.unfinished.Perm (.fresh task :: e.pool.unfinished) := by
  cases relayed with
  | refused stopped => exact .inl (.refl _)
  | answered admission pool running submitted =>
    have parts := submitted.unfinished_perm
    split at parts
    next => exact .inl parts
    next admitted => exact .inr ⟨admission, rfl, admitted, parts⟩

theorem Relayed.held_before (relayed : e.Relayed task admission after) {other : Task}
    {targets : List Handover.Target} (member : .held other targets ∈ after.pool.unfinished) :
    .held other targets ∈ e.pool.unfinished := by
  rcases relayed.unfinished_perm with same | ⟨_, _, _, parts⟩
  · exact same.subset member
  · rcases List.mem_cons.1 (parts.subset member) with new | old
    · cases new
    · exact old

end Relayed

theorem executed_before_asked {history : List Event} {task : Task}
    {answer : Option Pool.Admission} {x : Execution}
    (member : .executed x ∈ history ++ [.asked task answer]) : .executed x ∈ history := by
  rcases List.mem_append.1 member with old | new
  · exact old
  · cases List.mem_singleton.1 new

structure Still (e after : Engine) : Prop where
  router : after.router = e.router
  deliverer : after.deliverer = e.deliverer
  registry : e.site.registry.Changed after.site.registry
  unfinished : after.pool.unfinished.Perm e.pool.unfinished
  handles : after.handles.length = e.handles.length

theorem Outside.still {e after : Engine} (outside : e.Outside after) : e.Still after := by
  have resumed : (e.pool.resume fun _ => true).unfinished.Perm e.pool.unfinished := by
    rw [Pool.unfinished, Pool.waiting_resume]
    exact (Pool.running_resume e.pool _).append_left _
  cases outside with
  | furnish site changed => exact ⟨rfl, rfl, changed, .refl _, rfl⟩
  | shut => exact ⟨rfl, rfl, .none, .refl _, rfl⟩
  | unlock => exact ⟨rfl, rfl, .none, resumed, rfl⟩
  | takeOutcome handle =>
    unfold Engine.takeOutcome
    split
    · exact ⟨rfl, rfl, .none, .refl _, by simp⟩
    · exact ⟨rfl, rfl, .none, .refl _, rfl⟩
  | pass ms => exact ⟨rfl, rfl, .none, by rw [Pool.pass_eq]; exact .refl _, rfl⟩
  | setMaxWorkers n set =>
    obtain ⟨_, rfl⟩ := (Pool.setMaxWorkers_eq_ok_iff e.pool _ n).1 set
    exact ⟨rfl, rfl, .none, .refl _, rfl⟩
  | setKeepAlive ms => exact ⟨rfl, rfl, .none, .refl _, rfl⟩
  | throughput => exact ⟨rfl, rfl, .none, .refl _, rfl⟩
  | stop =>
    refine ⟨rfl, rfl, .none, ?_, rfl⟩
    simp only [Engine.stop, Pool.unfinished, Pool.waiting_close, Pool.running_close]
    exact .refl _

variable {history : List Event} {e : Engine}

theorem Reached.forall_executed {Holds : Execution → Prop}
    (each : ∀ (e : Engine) (job : Job), Holds (e.execution job)) (reached : Reached history e) :
    ∀ x, .executed x ∈ history → Holds x := by
  induction reached with
  | new router deliverer gate keepsCopies keepsLog site launched built =>
    exact fun _ member => absurd member List.not_mem_nil
  | relay address stanza escalation before ih =>
    intro x member
    rcases List.mem_append.1 member with old | new
    · exact ih x old
    · cases List.mem_singleton.1 new
  | turn before turn ih =>
    intro x member
    rcases List.mem_append.1 member with old | new
    · exact ih x old
    · obtain ⟨pool, job, _, _, same | ⟨_, _, _, _, same⟩⟩ :=
        (turned_of_turn turn).mem_events new
      · cases same
        exact each _ job
      · cases same
  | outside before outside ih => exact ih

theorem Reached.run (reached : Reached history e) (turns : Nat) :
    ∃ later, Reached (history ++ later) (Engine.run turns e) ∧
      ∀ event ∈ later, event.isAsked = false := by
  induction turns generalizing history e with
  | zero => exact ⟨[], by rwa [List.append_nil], List.forall_mem_nil _⟩
  | succ n ih =>
    cases turn : e.turn with
    | none =>
      refine ⟨[], ?_, List.forall_mem_nil _⟩
      rw [List.append_nil, Engine.run, turn]
      exact reached
    | some next =>
      obtain ⟨later, after, quiet⟩ := ih (reached.turn turn)
      refine ⟨e.turnEvents ++ later, ?_, ?_⟩
      · rw [Engine.run, turn, ← List.append_assoc]
        exact after
      · exact List.forall_mem_append.2 ⟨(turned_of_turn turn).isAsked_eq_false, quiet⟩

theorem Reached.settle (reached : Reached history e) :
    ∃ later, Reached (history ++ later) e.settle ∧ ∀ event ∈ later, event.isAsked = false := by
  obtain ⟨later, rested, quiet⟩ := reached.run (e.pool.effort weight)
  exact ⟨later, rested.outside (.pass 0), quiet⟩

theorem Reached.setGate (reached : Reached history e) (isOpen : Bool) :
    ∃ later, Reached (history ++ later) (e.setGate isOpen) ∧
      ∀ event ∈ later, event.isAsked = false := by
  cases isOpen with
  | false => exact (reached.outside .shut).settle
  | true => exact (reached.outside .unlock).settle

theorem Reached.pass (reached : Reached history e) (ms : Nat) :
    ∃ later, Reached (history ++ later) (e.pass ms) ∧
      ∀ event ∈ later, event.isAsked = false := by
  obtain ⟨first, rested, quiet⟩ := reached.settle
  obtain ⟨second, after, silent⟩ := (rested.outside (.pass ms)).settle
  refine ⟨first ++ second, ?_, List.forall_mem_append.2 ⟨quiet, silent⟩⟩
  rw [← List.append_assoc]
  exact after

end StanzaDelivery.Engine
