import StanzaDelivery.Proofs.Workshop.Accounts
import StanzaDelivery.Proofs.Workshop.Staffing

/-! What a submission is answered, and what it changes. The answer depends on whether the pool
runs, on the number of its live workers and on the length of its queue, and on nothing else.
Where the counters agree with the lists, as they do in every state that is reached, exactly one
answer fits. -/

namespace StanzaDelivery.Pool

variable {J : Type} {p q : Pool J}

inductive Admits (p : Pool J) : Admission → Prop
  | core (small : p.crew.length < p.settings.core.toNat) : Admits p .started
  | queued (large : p.settings.core.toNat ≤ p.crew.length)
      (room : p.queue.length < p.settings.queueCapacity.toNat) : Admits p .queued
  | extra (full : p.queue.length = p.settings.queueCapacity.toNat)
      (below : p.crew.length < p.settings.max.toNat) : Admits p .started
  | rejected (full : p.queue.length = p.settings.queueCapacity.toNat)
      (top : p.settings.max.toNat ≤ p.crew.length) : Admits p .rejected

theorem Submitted.admits {job : J} {admission : Admission} (balanced : p.Balanced 0)
    (submitted : Submitted p job admission q) : p.Admits admission := by
  obtain ⟨_, _, workers, room⟩ := balanced
  have counted := p.length_crew
  cases submitted with
  | core small => exact .core (by omega)
  | queued large room => exact .queued (by omega) room
  | extra large full below => exact .extra (by omega) (by omega)
  | rejected large full top => exact .rejected (by omega) (by omega)

theorem Admits.unique {one other : Admission} (usable : p.settings.Usable)
    (first : p.Admits one) (second : p.Admits other) : one = other := by
  have order := UInt64.le_iff_toNat_le.1 usable.core_le_max
  cases first with
  | core small =>
    cases second with
    | queued large room => omega
    | rejected full top => omega
    | _ => rfl
  | queued large room =>
    cases second with
    | queued => rfl
    | _ => omega
  | extra full below =>
    cases second with
    | queued large room => omega
    | rejected full top => omega
    | _ => rfl
  | rejected full top =>
    cases second with
    | rejected => rfl
    | _ => omega

/-- The pool that has answered so to a job. A job that joins the queue may give an idle worker a
turn; the worker is idle until it takes that turn. -/
def answering (p : Pool J) (job : J) : Admission → Pool J
  | .started => { p with workers := p.workers + 1, ready := p.ready ++ [.first job] }
  | .queued => { p with
      queued := p.queued + 1, queue := p.queue ++ [job], ready := p.ready ++ p.wakening }
  | .rejected => { p with rejected := p.rejected + 1 }

theorem Submitted.eq_answering {job : J} {admission : Admission}
    (submitted : Submitted p job admission q) : q = p.answering job admission := by
  cases submitted with
  | queued large room => exact wake_eq _
  | _ => rfl

theorem crew_answering (p : Pool J) (job : J) (admission : Admission) :
    (p.answering job admission).crew.Perm
      (if admission = .started then .starting job :: p.crew else p.crew) := by
  cases admission with
  | started =>
    have first : (p.spawn job).crew = p.firstJobs.map .starting ++ .starting job ::
        (p.running.map .running ++ p.idle.map .idle) := by
      rw [crew, firstJobs_spawn, running_spawn]
      simp [spawn]
    have others : p.crew = p.firstJobs.map .starting ++
        (p.running.map .running ++ p.idle.map .idle) := List.append_assoc ..
    rw [if_pos rfl, others]
    exact (List.Perm.of_eq first).trans List.perm_middle
  | queued =>
    have same : (p.joined job).crew = p.crew := by
      rw [crew, joined, firstJobs_wake, running_wake, idle_wake]
      rfl
    rw [joined, wake_eq] at same
    exact .of_eq same
  | rejected => exact .refl _

theorem submit_eq_some_iff (balanced : p.Balanced 0) (usable : p.settings.Usable) (job : J)
    (admission : Admission) (q : Pool J) :
    p.submit job = some (admission, q) ↔
      p.closed = false ∧ p.Admits admission ∧ q = p.answering job admission := by
  constructor
  · intro submit
    have submitted := submitted_of_submit submit
    refine ⟨?_, submitted.admits balanced, submitted.eq_answering⟩
    rw [← Bool.not_eq_true, ← submit_eq_none_iff p job, submit]
    nofun
  · rintro ⟨running, admits, rfl⟩
    cases submit : p.submit job with
    | none =>
      rw [(submit_eq_none_iff p job).1 submit] at running
      cases running
    | some result =>
      obtain ⟨answer, after⟩ := result
      have submitted := submitted_of_submit submit
      obtain rfl := (submitted.admits balanced).unique usable admits
      rw [submitted.eq_answering]

theorem admits_started_iff :
    p.Admits .started ↔ p.crew.length < p.settings.core.toNat ∨
      p.queue.length = p.settings.queueCapacity.toNat ∧
        p.crew.length < p.settings.max.toNat := by
  constructor
  · intro admits
    cases admits with
    | core small => exact .inl small
    | extra full below => exact .inr ⟨full, below⟩
  · rintro (small | ⟨full, below⟩)
    · exact .core small
    · exact .extra full below

theorem admits_queued_iff :
    p.Admits .queued ↔ p.settings.core.toNat ≤ p.crew.length ∧
      p.queue.length < p.settings.queueCapacity.toNat :=
  ⟨fun | .queued large room => ⟨large, room⟩, fun ⟨large, room⟩ => .queued large room⟩

theorem admits_rejected_iff :
    p.Admits .rejected ↔ p.queue.length = p.settings.queueCapacity.toNat ∧
      p.settings.max.toNat ≤ p.crew.length :=
  ⟨fun | .rejected full top => ⟨full, top⟩, fun ⟨full, top⟩ => .rejected full top⟩

end StanzaDelivery.Pool

namespace StanzaDelivery.Workshop

variable {settings : Pool.Settings} {history : List Event} {w : Workshop}

theorem submit_eq (w : Workshop) (mode : Mode) :
    w.submit mode = match w.pool.submit w.jobs.length with
      | none => (.refused, { w with jobs := w.jobs ++ [⟨mode, false, .dropped⟩] })
      | some (admission, pool) => (.admitted admission, { w with
          pool := pool
          jobs := w.jobs ++
            [⟨mode, false, if admission = .rejected then .dropped else .waiting⟩] }) := by
  unfold Workshop.submit
  cases w.pool.submit w.jobs.length with
  | none => rfl
  | some result =>
    obtain ⟨admission, pool⟩ := result
    cases admission <;> rfl

theorem submit_refused_iff (w : Workshop) (mode : Mode) :
    (w.submit mode).1 = .refused ↔ w.pool.closed = true := by
  rw [submit_eq, ← Pool.submit_eq_none_iff w.pool w.jobs.length]
  cases w.pool.submit w.jobs.length with
  | none => simp
  | some result => simp

theorem Reached.submit_admitted_iff (usable : settings.Usable)
    (reached : Reached settings history w) (mode : Mode) (admission : Pool.Admission) :
    (w.submit mode).1 = .admitted admission ↔
      w.pool.closed = false ∧ w.pool.Admits admission := by
  have sizes := (reached.staffed usable).usable
  have spec := Pool.submit_eq_some_iff reached.booked.balanced sizes w.jobs.length
  rw [submit_eq]
  cases submit : w.pool.submit w.jobs.length with
  | none =>
    have closed := (Pool.submit_eq_none_iff w.pool w.jobs.length).1 submit
    simp [closed]
  | some result =>
    obtain ⟨answer, pool⟩ := result
    obtain ⟨running, admits, _⟩ := (spec answer pool).1 submit
    constructor
    · rintro ⟨⟩
      exact ⟨running, admits⟩
    · rintro ⟨_, fits⟩
      rw [admits.unique sizes fits]

theorem pool_submit_of_refused {mode : Mode} (refused : (w.submit mode).1 = .refused) :
    (w.submit mode).2.pool = w.pool := by
  rw [submit_eq] at refused ⊢
  cases submit : w.pool.submit w.jobs.length with
  | none => rfl
  | some result =>
    rw [submit] at refused
    cases refused

theorem pool_submit_of_admitted {mode : Mode} {admission : Pool.Admission}
    (admitted : (w.submit mode).1 = .admitted admission) :
    (w.submit mode).2.pool = w.pool.answering w.jobs.length admission := by
  rw [submit_eq] at admitted ⊢
  cases submit : w.pool.submit w.jobs.length with
  | none =>
    rw [submit] at admitted
    cases admitted
  | some result =>
    rw [submit] at admitted
    cases admitted
    exact (Pool.submitted_of_submit submit).eq_answering

theorem jobs_submit (w : Workshop) (mode : Mode) :
    (∃ status, (w.submit mode).2.jobs = w.jobs ++ [⟨mode, false, status⟩]) ∧
      (w.submit mode).2.released = w.released := by
  rw [submit_eq]
  cases w.pool.submit w.jobs.length with
  | none => exact ⟨⟨_, rfl⟩, rfl⟩
  | some result => exact ⟨⟨_, rfl⟩, rfl⟩

/-- In every state that is reached, the answer to a submission is known from whether the pool is
closed, from its live workers against the sizes in force, and from whether its queue is full. A
job that is started gets a worker of its own, one that is queued goes to the end of the queue, one
that is rejected is counted, and one that is refused leaves no trace in the pool. Nothing else
changes: the queue, the other workers, the other counters and the other jobs stay as they are. -/
theorem submission_exact (usable : settings.check = .ok ()) (reached : Reached settings history w)
    (mode : Mode) :
    ((w.submit mode).1 = .refused ↔ w.pool.closed = true) ∧
    ((w.submit mode).1 = .admitted .started ↔ w.pool.closed = false ∧
      (w.pool.crew.length < w.pool.settings.core.toNat ∨
        w.pool.queue.length = settings.queueCapacity.toNat ∧
          w.pool.crew.length < w.pool.settings.max.toNat)) ∧
    ((w.submit mode).1 = .admitted .queued ↔ w.pool.closed = false ∧
      w.pool.settings.core.toNat ≤ w.pool.crew.length ∧
        w.pool.queue.length < settings.queueCapacity.toNat) ∧
    ((w.submit mode).1 = .admitted .rejected ↔ w.pool.closed = false ∧
      w.pool.queue.length = settings.queueCapacity.toNat ∧
        w.pool.settings.max.toNat ≤ w.pool.crew.length) ∧
    ((w.submit mode).1 = .refused → (w.submit mode).2.pool = w.pool) ∧
    ((w.submit mode).1 = .admitted .started →
      (w.submit mode).2.pool = { w.pool with
        workers := w.pool.workers + 1
        ready := w.pool.ready ++ [.first w.jobs.length] } ∧
      (w.submit mode).2.pool.crew.Perm (.starting w.jobs.length :: w.pool.crew)) ∧
    ((w.submit mode).1 = .admitted .queued →
      (w.submit mode).2.pool = { w.pool with
        queued := w.pool.queued + 1
        queue := w.pool.queue ++ [w.jobs.length]
        ready := w.pool.ready ++ w.pool.wakening } ∧
      (w.submit mode).2.pool.crew.Perm w.pool.crew) ∧
    ((w.submit mode).1 = .admitted .rejected →
      (w.submit mode).2.pool = { w.pool with rejected := w.pool.rejected + 1 }) ∧
    (∃ status, (w.submit mode).2.jobs = w.jobs ++ [⟨mode, false, status⟩]) ∧
      (w.submit mode).2.released = w.released := by
  have valid := (Pool.Settings.check_eq_ok_iff settings).1 usable
  have answer := reached.submit_admitted_iff valid mode
  have changed : ∀ admission, (w.submit mode).1 = .admitted admission →
      (w.submit mode).2.pool = w.pool.answering w.jobs.length admission ∧
        (w.submit mode).2.pool.crew.Perm
          (if admission = .started then .starting w.jobs.length :: w.pool.crew
            else w.pool.crew) := by
    intro admission admitted
    have after := pool_submit_of_admitted admitted
    refine ⟨after, ?_⟩
    rw [after]
    exact w.pool.crew_answering _ _
  rw [← reached.booked.capacity]
  refine ⟨w.submit_refused_iff mode, ?_, ?_, ?_, pool_submit_of_refused, changed .started,
    changed .queued, fun rejected => (changed .rejected rejected).1, w.jobs_submit mode⟩
  · rw [answer, Pool.admits_started_iff]
  · rw [answer, Pool.admits_queued_iff]
  · rw [answer, Pool.admits_rejected_iff]

theorem submission_exact_when_full_and_shrunk :
    ∃ history w, Reached ⟨2, 4, 1, 60000⟩ history w ∧ w.pool.settings.max = 2 ∧
      w.pool.crew = [.starting 0, .starting 1, .starting 3] ∧ w.pool.queue = [2] ∧
      (w.submit .instant).1 = .admitted .rejected ∧
      (w.submit .instant).2.pool = { w.pool with rejected := 1 } := by
  -- A pool with a full queue has more live workers than its largest size allows since that was made
  -- smaller. The next job is sent away, and only that is counted.
  have full : Reached ⟨2, 4, 1, 60000⟩ _ _ :=
    (((Reached.new.submit .gated rfl).submit .instant rfl).submit .failing rfl).submit .gated rfl
  have shrunk := full.setMaxWorkers 1 rfl
  obtain ⟨_, _, _, rejected, _, _, _, counted, _⟩ := submission_exact rfl shrunk .instant
  have away := rejected.2 ⟨rfl, rfl, by decide⟩
  exact ⟨_, _, shrunk, rfl, rfl, rfl, away, counted away⟩

end StanzaDelivery.Workshop
