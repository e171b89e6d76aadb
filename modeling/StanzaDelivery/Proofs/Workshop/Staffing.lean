import StanzaDelivery.Proofs.Pool.Staffing
import StanzaDelivery.Proofs.Workshop.Accounts

/-! The settings and the number of workers of a pool at work. Its sizes may be changed at
any moment; workers that are too many then leave one by one as their time comes. -/

namespace StanzaDelivery.Workshop

def Event.limit? : Event → Option UInt64
  | .limited max => some max
  | _ => none

def limits (settings : Pool.Settings) (history : List Event) : List UInt64 :=
  settings.max :: history.filterMap Event.limit?

theorem limits_append (settings : Pool.Settings) (history later : List Event) :
    limits settings (history ++ later) =
      limits settings history ++ later.filterMap Event.limit? := by
  simp [limits]

theorem Turned.limits {w next : Workshop} {events : List Event} (turned : w.Turned next events) :
    events.filterMap Event.limit? = [] :=
  List.filterMap_eq_nil_iff.2 (turned.forall_events (fun _ => rfl) fun _ => rfl)

theorem Turned.staffed {w next : Workshop} {events : List Event} (turned : w.Turned next events)
    (staffed : w.pool.Staffed) : next.pool.Staffed := by
  cases turned with
  | quiet pool turned => exact staffed.turned turned
  | waiting pool id began turned wait => exact (staffed.turned turned).suspend id
  | ending pool id began turned free => exact (staffed.turned turned).finish

theorem Turned.kept {w next : Workshop} {events : List Event} (turned : w.Turned next events) :
    next.pool.settings = w.pool.settings ∧ next.pool.closed = w.pool.closed := by
  cases turned with
  | quiet pool turned => exact ⟨turned.kept.1, turned.kept.2.1⟩
  | waiting pool id began turned wait => exact ⟨turned.kept.1, turned.kept.2.1⟩
  | ending pool id began turned free =>
    rw [Pool.finish_eq]
    exact ⟨turned.kept.1, turned.kept.2.1⟩

theorem Turned.workers {w next : Workshop} {events : List Event} (turned : w.Turned next events) :
    next.pool.workers ≤ w.pool.workers ∧
      (w.pool.closed = false → next.pool.workers = w.pool.workers) := by
  cases turned with
  | quiet pool turned => exact ⟨turned.workers_le, turned.workers_eq⟩
  | waiting pool id began turned wait => exact ⟨turned.workers_le, turned.workers_eq⟩
  | ending pool id began turned free =>
    rw [Pool.finish_eq]
    exact ⟨turned.workers_le, turned.workers_eq⟩

theorem exhaust_kept (w : Workshop) :
    w.exhaust.pool.settings = w.pool.settings ∧ w.exhaust.pool.closed = w.pool.closed ∧
      (w.pool.closed = false → w.exhaust.pool.workers = w.pool.workers) := by
  apply run_preserves fun after => after.pool.settings = w.pool.settings ∧
    after.pool.closed = w.pool.closed ∧
    (w.pool.closed = false → after.pool.workers = w.pool.workers)
  · intro before after events turned ⟨settings, closed, workers⟩
    refine ⟨turned.kept.1.trans settings, turned.kept.2.trans closed, ?_⟩
    intro running
    rw [turned.workers.2 (closed.trans running), workers running]
  · exact ⟨rfl, rfl, fun _ => rfl⟩

theorem settle_kept (w : Workshop) :
    w.settle.pool.settings = w.pool.settings ∧ w.settle.pool.closed = w.pool.closed := by
  obtain ⟨settings, closed, _⟩ := w.exhaust_kept
  rw [settle, Pool.pass_eq]
  exact ⟨settings, closed⟩

theorem workers_exhaust_pass (w : Workshop) (running : w.pool.closed = false) (ms : Nat) :
    (w.exhaust.pool.pass ms).stats.workers = w.pool.stats.workers -
      min (w.exhaust.pool.expiring ms) (w.pool.stats.workers - w.pool.settings.core.toNat) := by
  obtain ⟨sizes, _, workers⟩ := w.exhaust_kept
  rw [Pool.pass_eq]
  simp only [Pool.stats, Pool.leaving, sizes, workers running]
  omega

theorem min_le_workers_settle (w : Workshop) (running : w.settle.pool.closed = false) :
    min w.pool.workers w.pool.settings.core.toNat ≤ w.settle.pool.workers := by
  obtain ⟨settings, _, workers⟩ := w.exhaust_kept
  have least := w.exhaust.pool.min_le_workers_pass 0
  rwa [settings, workers (w.settle_kept.2.symm.trans running)] at least

variable {settings : Pool.Settings} {history : List Event} {w : Workshop}

theorem Reached.staffed (usable : settings.Usable) (reached : Reached settings history w) :
    w.pool.Staffed := by
  induction reached with
  | new => exact Pool.staffed_empty settings usable
  | submit mode before submit ih =>
    cases offered_of_submit submit with
    | refused closed => exact ih
    | admitted pool admission submitted => exact ih.submit submitted
  | turn before turn ih => exact (turned_of_turn turn).staffed ih
  | unlock id before shut ih => exact ih.resume _
  | pass ms before ih => exact ih.pass ms
  | setMaxWorkers n before set ih => exact ih.setMaxWorkers set
  | setKeepAlive ms before ih => exact ih.setKeepAlive ms
  | throughput before ih => exact ih.takeThroughput
  | close before ih => exact ih.close
  | letGo before ih => exact ih.close

theorem Reached.bounded (usable : settings.Usable) (reached : Reached settings history w) :
    w.pool.Bounded (limits settings history) := by
  induction reached with
  | new => exact ⟨rfl, settings.max, List.mem_singleton_self _, Int.natCast_nonneg _⟩
  | submit mode before submit ih =>
    rw [limits_append, List.filterMap_cons_none rfl, List.filterMap_nil, List.append_nil]
    cases offered_of_submit submit with
    | refused closed => exact ih
    | admitted pool admission submitted => exact ih.submit (before.staffed usable).usable submitted
  | turn before turn ih =>
    have turned := turned_of_turn turn
    rw [limits_append, turned.limits, List.append_nil]
    exact ih.of_le (congrArg Pool.Settings.max turned.kept.1) turned.workers.1
  | unlock id before shut ih => exact ih.of_le rfl (Int.le_refl _)
  | pass ms before ih =>
    refine ih.of_le ?_ (Pool.workers_pass_le _ ms)
    rw [Pool.pass_eq]
  | setMaxWorkers n before set ih =>
    rw [limits_append]
    exact ih.setMaxWorkers set
  | setKeepAlive ms before ih => exact ih.of_le rfl (Int.le_refl _)
  | throughput before ih => exact ih.of_le rfl (Int.le_refl _)
  | close before ih => exact ih.close
  | letGo before ih => exact ih.close

theorem min_le_workers_pass (w : Workshop) (ms : Nat) (running : (w.pass ms).pool.closed = false) :
    min w.pool.workers w.pool.settings.core.toNat ≤ (w.pass ms).pool.workers := by
  rw [Workshop.pass] at *
  have kept : (w.settle.pool.pass ms).settings = w.settle.pool.settings ∧
      (w.settle.pool.pass ms).closed = w.settle.pool.closed := by
    rw [Pool.pass_eq]
    exact ⟨rfl, rfl⟩
  have sizes := w.settle_kept.1
  have first := w.min_le_workers_settle
    (kept.2.symm.trans ((settle_kept _).2.symm.trans running))
  have second := w.settle.pool.min_le_workers_pass ms
  have third := min_le_workers_settle _ running
  dsimp only at third
  rw [kept.1, sizes] at third
  rw [sizes] at second
  omega

theorem min_le_workers_perform (w : Workshop) (step : Step)
    (running : (w.perform step).2.pool.closed = false) :
    min w.pool.workers w.pool.settings.core.toNat ≤ (w.perform step).2.pool.workers := by
  have least := Int.min_le_left w.pool.workers w.pool.settings.core.toNat
  cases step with
  | submit mode =>
    rcases submit : w.submit mode with ⟨answer, after⟩
    simp only [perform, submit]
    cases offered_of_submit submit with
    | refused closed => exact least
    | admitted pool admission submitted => exact Int.le_trans least submitted.le_workers
  | openJob id =>
    by_cases shut : w.isShut id = true
    · simp only [perform, openJob, if_pos shut] at *
      exact min_le_workers_settle _ running
    · simp only [perform, openJob, if_neg shut] at *
      exact min_le_workers_settle _ running
  | settle => exact min_le_workers_settle _ running
  | pass ms => exact w.min_le_workers_pass ms running
  | setMaxWorkers n =>
    simp only [perform]
    cases set : w.pool.setMaxWorkers n with
    | ok pool =>
      obtain ⟨_, rfl⟩ := (Pool.setMaxWorkers_eq_ok_iff _ _ n).1 set
      exact least
    | error cause => exact least
  | setKeepAlive ms => exact least
  | throughput => exact least
  | close =>
    simp only [perform, Workshop.close, Pool.close, Pool.workers_wake]
    exact least
  | release =>
    have closed : w.letGo.pool.closed = true := (Pool.closed_wake _).trans rfl
    rw [perform, release, (settle_kept _).2, closed] at running
    cases running

theorem min_le_workers_take (w : Workshop) (step : Step)
    (running : (w.take step).2.pool.closed = false) :
    min w.pool.workers w.pool.settings.core.toNat ≤ (w.take step).2.pool.workers := by
  revert running
  unfold Workshop.take
  split
  · intro _
    exact Int.min_le_left ..
  · exact w.min_le_workers_perform step

theorem setMaxWorkers_refused (w : Workshop) (n : UInt64)
    (refused : (w.take (.setMaxWorkers n)).1 ≠ .done) : (w.take (.setMaxWorkers n)).2 = w := by
  revert refused
  unfold Workshop.take
  split
  · intro _
    rfl
  · simp only [perform]
    cases w.pool.setMaxWorkers n with
    | ok pool => exact fun refused => absurd rfl refused
    | error cause => exact fun _ => rfl

/-- A pool's settings stay usable and its workers within the sizes that it was given,
whatever is asked of it in whatever order. A queue is never left without a worker. -/
theorem queue_manned (usable : settings.check = .ok ()) (reached : Reached settings history w) :
    (w.pool.settings.check = .ok () ∧ 1 ≤ w.pool.settings.core.toNat ∧
      w.pool.settings.core.toNat ≤ w.pool.settings.max.toNat) ∧
    (∀ n, (w.take (.setMaxWorkers n)).1 ≠ .done → (w.take (.setMaxWorkers n)).2 = w) ∧
    ((limits settings history).getLast? = some w.pool.settings.max ∧
      ∃ limit ∈ limits settings history, w.pool.workers ≤ limit.toNat) ∧
    (∀ mode, w.pool.settings.max.toNat ≤ w.pool.workers →
      (w.submit mode).1 ≠ .admitted .started ∧
      (w.submit mode).2.pool.workers = w.pool.workers) ∧
    (∀ step, (w.take step).2.pool.closed = false →
      min w.pool.workers w.pool.settings.core.toNat ≤ (w.take step).2.pool.workers) ∧
    (w.pool.queue ≠ [] → w.pool.crew ≠ []) := by
  have valid := (Pool.Settings.check_eq_ok_iff settings).1 usable
  have staffed := reached.staffed valid
  have bounded := reached.bounded valid
  have sizes := staffed.usable
  refine ⟨⟨(Pool.Settings.check_eq_ok_iff _).2 sizes, Pool.core_pos sizes,
    UInt64.le_iff_toNat_le.1 sizes.core_le_max⟩, w.setMaxWorkers_refused,
    ⟨bounded.latest, bounded.bound⟩, ?_, w.min_le_workers_take, ?_⟩
  · intro mode top
    rcases submit : w.submit mode with ⟨answer, after⟩
    cases offered_of_submit submit with
    | refused closed => exact ⟨nofun, rfl⟩
    | admitted pool admission submitted =>
      obtain ⟨answer, workers⟩ := submitted.workers_eq sizes top
      exact ⟨by simpa using answer, workers⟩
  · intro queue nobody
    have some := staffed.manned queue
    have balanced := reached.booked.balanced.workers
    have none := w.pool.length_crew
    rw [nobody, List.length_nil] at none
    omega

theorem queue_manned_after_shrinking :
    ∃ history w, Reached ⟨1, 2, 1, 60000⟩ history w ∧
      limits ⟨1, 2, 1, 60000⟩ history = [2, 6, 2] ∧ w.pool.workers = 3 ∧
      w.pool.queue = [1] ∧ w.pool.crew ≠ [] := by
  -- A pool that has grown to three workers is given a largest size of two again while a job is
  -- queued.
  have grown : Reached ⟨1, 2, 1, 60000⟩ _ _ :=
    (((Reached.new.submit .gated rfl).submit .gated rfl).submit .gated rfl).setMaxWorkers 3 rfl
  have shrunk := (grown.submit .instant rfl).setMaxWorkers 1 rfl
  obtain ⟨_, _, _, _, _, manned⟩ := queue_manned rfl shrunk
  exact ⟨_, _, shrunk, by decide, by decide, by decide, manned (by decide)⟩

end StanzaDelivery.Workshop
