import StanzaDelivery.Proofs.Pool.Crew

/-! A pool keeps enough workers. Its settings stay usable, a worker that waits in vain is
never waiting beside work, and jobs in the queue are never left without a worker. -/

namespace StanzaDelivery.Pool

variable {J : Type}

structure Staffed (p : Pool J) : Prop where
  usable : p.settings.Usable
  /-- Where there is work for an idle worker, one has a turn. -/
  alert : p.queue ≠ [] ∨ p.closed = true → p.idle ≠ [] → .woken ∈ p.ready
  manned : p.queue ≠ [] → 0 < p.workers

theorem staffed_empty (settings : Settings) (usable : settings.Usable) :
    (empty settings : Pool J).Staffed := by
  refine ⟨usable, ?_, ?_⟩
  · intro _ idle
    exact absurd rfl idle
  · intro queue
    exact absurd rfl queue

theorem core_pos {settings : Settings} (usable : settings.Usable) : 0 < settings.core.toNat :=
  UInt64.lt_iff_toNat_lt.1 usable.core_pos

theorem Staffed.idle_eq_nil {p : Pool J} (staffed : p.Staffed) (still : p.ready = [])
    (work : p.queue ≠ [] ∨ p.closed = true) : p.idle = [] := by
  by_cases nobody : p.idle = []
  · exact nobody
  · have turn := staffed.alert work nobody
    rw [still] at turn
    cases turn

theorem Staffed.submit {p q : Pool J} {job : J} {admission : Admission} (staffed : p.Staffed)
    (submitted : Submitted p job admission q) : q.Staffed := by
  obtain ⟨usable, alert, manned⟩ := staffed
  have spawned : (p.spawn job).Staffed := by
    refine ⟨usable, ?_, ?_⟩
    · intro work idle
      exact List.mem_append_left _ (alert work idle)
    · intro queue
      have := manned queue
      simp only [spawn]
      omega
  cases submitted with
  | core small => exact spawned
  | queued large room =>
    have enough := core_pos usable
    refine ⟨?_, ?_, ?_⟩
    · simpa [joined] using usable
    · intro _ idle
      apply woken_mem_wake
      simpa [joined] using idle
    · intro _
      simp only [joined, workers_wake]
      omega
  | extra large full below => exact spawned
  | rejected large full top => exact ⟨usable, alert, manned⟩

theorem Staffed.turned {p q : Pool J} {out began : Option J} (staffed : p.Staffed)
    (turned : Turned p q out began) : q.Staffed := by
  have usable : q.settings.Usable := by
    rw [turned.kept.1]
    exact staffed.usable
  obtain ⟨_, alert, manned⟩ := staffed
  cases turned with
  | first job rest next =>
    refine ⟨usable, ?_, manned⟩
    intro work idle
    simpa [next, begin] using alert work idle
  | resumed job rest next =>
    refine ⟨usable, ?_, manned⟩
    intro work idle
    simpa [next] using alert work idle
  | taken job jobs rest next idle queue =>
    refine ⟨usable, ?_, ?_⟩
    · intro _ others
      apply woken_mem_wake
      simpa [begin, takeIdle] using others
    · intro _
      have some := manned (by simp [queue])
      simpa [begin, takeIdle] using some
  | left rest next idle queue closed =>
    refine ⟨usable, ?_, ?_⟩
    · intro _ others
      apply woken_mem_wake
      simpa [leave, takeIdle] using others
    · intro work
      exact absurd queue (by simpa [leave, takeIdle] using work)
  | unneeded rest next nothing =>
    refine ⟨usable, ?_, manned⟩
    intro work idle
    rcases nothing with none | ⟨queue, running⟩
    · exact absurd none idle
    · rcases work with work | closed
      · exact absurd queue work
      · exact absurd closed (by simp [running])

theorem Staffed.finish {p : Pool J} (staffed : p.Staffed) : p.finish.Staffed := by
  obtain ⟨usable, alert, manned⟩ := staffed
  rw [finish_eq]
  refine ⟨usable, ?_, manned⟩
  intro work _
  cases idle : p.idle with
  | nil => simp
  | cons first others => exact List.mem_append_right _ (alert work (by simp [idle]))

theorem Staffed.suspend {p : Pool J} (staffed : p.Staffed) (job : J) :
    (p.suspend job).Staffed :=
  ⟨staffed.usable, staffed.alert, staffed.manned⟩

theorem Staffed.resume {p : Pool J} (staffed : p.Staffed) (mayGoOn : J → Bool) :
    (p.resume mayGoOn).Staffed := by
  refine ⟨staffed.usable, ?_, staffed.manned⟩
  intro work idle
  exact List.mem_append_left _ (staffed.alert work idle)

theorem Staffed.close {p : Pool J} (staffed : p.Staffed) : p.close.Staffed := by
  obtain ⟨usable, alert, manned⟩ := staffed
  refine ⟨?_, ?_, ?_⟩
  · simpa [Pool.close] using usable
  · intro _ idle
    apply woken_mem_wake
    simpa [Pool.close] using idle
  · simpa [Pool.close] using manned

theorem Staffed.close_eq {p : Pool J} (staffed : p.Staffed) (closed : p.closed = true) :
    p.close = p := by
  have same : { p with closed := true } = p := by rw [← closed]
  rw [Pool.close, same, wake]
  by_cases idle : p.idle = []
  · simp [idle]
  · have woken : p.ready.any isWoken = true :=
      List.any_eq_true.2 ⟨.woken, staffed.alert (.inr closed) idle, rfl⟩
    simp [woken]

theorem min_le_workers_pass (p : Pool J) (ms : Nat) :
    min p.workers p.settings.core.toNat ≤ (p.pass ms).workers := by
  rw [pass_eq]
  simp only [leaving]
  omega

theorem workers_pass_le (p : Pool J) (ms : Nat) : (p.pass ms).workers ≤ p.workers := by
  rw [pass_eq]
  dsimp only
  omega

theorem Staffed.pass {p : Pool J} (staffed : p.Staffed) (ms : Nat) : (p.pass ms).Staffed := by
  obtain ⟨usable, alert, manned⟩ := staffed
  have enough := core_pos usable
  have least := p.min_le_workers_pass ms
  rw [pass_eq] at *
  refine ⟨usable, ?_, ?_⟩
  · intro work idle
    apply alert work
    intro none
    simp [none, expiring] at idle
  · intro queue
    have some := manned queue
    dsimp only at least ⊢
    omega

theorem Staffed.setMaxWorkers {p q : Pool J} {n : UInt64} (staffed : p.Staffed)
    (set : p.setMaxWorkers n = .ok q) : q.Staffed := by
  obtain ⟨usable, rfl⟩ := (setMaxWorkers_eq_ok_iff p q n).1 set
  exact ⟨usable, staffed.alert, staffed.manned⟩

theorem Staffed.takeThroughput {p : Pool J} (staffed : p.Staffed) :
    p.takeThroughput.2.Staffed :=
  ⟨staffed.usable, staffed.alert, staffed.manned⟩

theorem Staffed.setKeepAlive {p : Pool J} (staffed : p.Staffed) (ms : Nat) :
    (p.setKeepAlive ms).Staffed :=
  ⟨⟨staffed.usable.core_pos, staffed.usable.core_le_max, staffed.usable.queue_pos⟩,
    staffed.alert, staffed.manned⟩

theorem Submitted.workers_le {p q : Pool J} {job : J} {admission : Admission}
    (usable : p.settings.Usable) (submitted : Submitted p job admission q) :
    q.workers ≤ max p.workers p.settings.max.toNat := by
  have order := UInt64.le_iff_toNat_le.1 usable.core_le_max
  cases submitted with
  | core small =>
    simp only [spawn]
    omega
  | queued large room =>
    simp only [joined, workers_wake]
    omega
  | extra large full below =>
    simp only [spawn]
    omega
  | rejected large full top =>
    simp only [reject]
    omega

theorem Submitted.le_workers {p q : Pool J} {job : J} {admission : Admission}
    (submitted : Submitted p job admission q) : p.workers ≤ q.workers := by
  have spawned : p.workers ≤ (p.spawn job).workers := Int.le_add_one (Int.le_refl _)
  cases submitted with
  | core small => exact spawned
  | queued large room => simp [joined]
  | extra large full below => exact spawned
  | rejected large full top => exact Int.le_refl _

theorem Submitted.workers_eq {p q : Pool J} {job : J} {admission : Admission}
    (usable : p.settings.Usable) (submitted : Submitted p job admission q)
    (top : p.settings.max.toNat ≤ p.workers) : admission ≠ .started ∧ q.workers = p.workers := by
  have order := UInt64.le_iff_toNat_le.1 usable.core_le_max
  cases submitted with
  | core small => omega
  | queued large room => simp [joined]
  | extra large full below => omega
  | rejected large full top => simp [reject]

theorem Turned.workers_le {p q : Pool J} {out began : Option J} (turned : Turned p q out began) :
    q.workers ≤ p.workers := by
  cases turned with
  | taken job jobs rest next idle queue => simp [begin, takeIdle]
  | left rest next idle queue closed =>
    simp only [leave, takeIdle, workers_wake]
    omega
  | _ => exact Int.le_refl _

theorem Turned.workers_eq {p q : Pool J} {out began : Option J} (turned : Turned p q out began)
    (running : p.closed = false) : q.workers = p.workers := by
  cases turned with
  | taken job jobs rest next idle queue => simp [begin, takeIdle]
  | left rest next idle queue closed => simp [running] at closed
  | _ => rfl

/-- Of these largest sizes the last is in force, and one of them bounds the workers. -/
structure Bounded (limits : List UInt64) (p : Pool J) : Prop where
  latest : limits.getLast? = some p.settings.max
  bound : ∃ limit ∈ limits, p.workers ≤ limit.toNat

theorem Bounded.submit {limits : List UInt64} {p q : Pool J} {job : J} {admission : Admission}
    (bounded : p.Bounded limits) (usable : p.settings.Usable)
    (submitted : Submitted p job admission q) : q.Bounded limits := by
  obtain ⟨latest, limit, member, bound⟩ := bounded
  have grown := submitted.workers_le usable
  refine ⟨by rw [latest, submitted.kept.1], ?_⟩
  by_cases above : (p.settings.max.toNat : Int) ≤ p.workers
  · exact ⟨limit, member, by omega⟩
  · exact ⟨_, List.mem_of_getLast? latest, by omega⟩

theorem Bounded.of_le {limits : List UInt64} {p q : Pool J} (bounded : p.Bounded limits)
    (max : q.settings.max = p.settings.max) (fewer : q.workers ≤ p.workers) :
    q.Bounded limits := by
  obtain ⟨latest, limit, member, bound⟩ := bounded
  exact ⟨by rw [max, latest], limit, member, Int.le_trans fewer bound⟩

theorem Bounded.close {limits : List UInt64} {p : Pool J} (bounded : p.Bounded limits) :
    p.close.Bounded limits :=
  bounded.of_le (by simp [Pool.close]) (by simp [Pool.close])

theorem Bounded.setMaxWorkers {limits : List UInt64} {p q : Pool J} {n : UInt64}
    (bounded : p.Bounded limits) (set : p.setMaxWorkers n = .ok q) :
    q.Bounded (limits ++ [q.settings.max]) := by
  obtain ⟨_, limit, member, bound⟩ := bounded
  obtain ⟨_, rfl⟩ := (setMaxWorkers_eq_ok_iff p q n).1 set
  exact ⟨List.getLast?_concat, limit, List.mem_append_left _ member, bound⟩

end StanzaDelivery.Pool
