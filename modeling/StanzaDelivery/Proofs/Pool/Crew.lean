import StanzaDelivery.Pool

/-! The live workers of a pool and the places of its jobs. Every worker holds its first
job, runs a job, or is idle; every job that is not over waits or is run. What a
submission and a turn can come to is said once, case by case, for all that follows. -/

namespace StanzaDelivery.Pool

variable {J : Type}

inductive Worker (J : Type)
  | starting (first : J)
  | running (job : J)
  | idle (deadline : Nat)
  deriving DecidableEq, Repr

def Worker.isStarting : Worker J → Bool
  | .starting _ => true
  | _ => false

def Worker.isRunning : Worker J → Bool
  | .running _ => true
  | _ => false

/-- Jobs that were begun and are not over, each run by a worker of its own. -/
def running (p : Pool J) : List J := p.resumedJobs ++ p.suspended

/-- Jobs that were admitted and have not begun. -/
def waiting (p : Pool J) : List J := p.queue ++ p.firstJobs

def crew (p : Pool J) : List (Worker J) :=
  p.firstJobs.map .starting ++ p.running.map .running ++ p.idle.map .idle

theorem length_crew (p : Pool J) :
    p.crew.length = p.firstJobs.length + p.running.length + p.idle.length := by
  simp [crew, Nat.add_assoc]

theorem countP_isStarting_crew (p : Pool J) :
    p.crew.countP Worker.isStarting = p.firstJobs.length := by
  simp [crew, List.countP_map, Function.comp_def, Worker.isStarting]

theorem countP_isRunning_crew (p : Pool J) :
    p.crew.countP Worker.isRunning = p.running.length := by
  simp [crew, List.countP_map, Function.comp_def, Worker.isRunning]

def wakening (p : Pool J) : List (Turn J) :=
  if p.idle.isEmpty || p.ready.any isWoken then [] else [.woken]

theorem wake_eq (p : Pool J) : p.wake = { p with ready := p.ready ++ p.wakening } := by
  unfold wake wakening
  split
  · simp
  · rfl

@[simp] theorem settings_wake (p : Pool J) : p.wake.settings = p.settings := by rw [wake_eq]

@[simp] theorem closed_wake (p : Pool J) : p.wake.closed = p.closed := by rw [wake_eq]

@[simp] theorem workers_wake (p : Pool J) : p.wake.workers = p.workers := by rw [wake_eq]

@[simp] theorem busy_wake (p : Pool J) : p.wake.busy = p.busy := by rw [wake_eq]

@[simp] theorem queued_wake (p : Pool J) : p.wake.queued = p.queued := by rw [wake_eq]

@[simp] theorem completed_wake (p : Pool J) : p.wake.completed = p.completed := by rw [wake_eq]

@[simp] theorem rejected_wake (p : Pool J) : p.wake.rejected = p.rejected := by rw [wake_eq]

@[simp] theorem queue_wake (p : Pool J) : p.wake.queue = p.queue := by rw [wake_eq]

@[simp] theorem suspended_wake (p : Pool J) : p.wake.suspended = p.suspended := by rw [wake_eq]

@[simp] theorem idle_wake (p : Pool J) : p.wake.idle = p.idle := by rw [wake_eq]

@[simp] theorem firstJobs_wake (p : Pool J) : p.wake.firstJobs = p.firstJobs := by
  unfold wake
  split
  · rfl
  · simp [firstJobs]

@[simp] theorem resumedJobs_wake (p : Pool J) : p.wake.resumedJobs = p.resumedJobs := by
  unfold wake
  split
  · rfl
  · simp [resumedJobs]

@[simp] theorem waiting_wake (p : Pool J) : p.wake.waiting = p.waiting := by
  rw [waiting, firstJobs_wake, wake_eq]
  rfl

@[simp] theorem running_wake (p : Pool J) : p.wake.running = p.running := by
  rw [running, resumedJobs_wake, wake_eq]
  rfl

theorem woken_mem_wake (p : Pool J) (idle : p.idle ≠ []) : .woken ∈ p.wake.ready := by
  rw [wake_eq]
  by_cases woken : p.ready.any isWoken
  · obtain ⟨turn, member, isWoken⟩ := List.any_eq_true.1 woken
    cases turn with
    | woken => exact List.mem_append_left _ member
    | first job => cases isWoken
    | resumed job => cases isWoken
  · have none : p.idle.isEmpty = false := by simpa using idle
    simp [wakening, woken, none]

@[simp] theorem firstJobs_spawn (p : Pool J) (job : J) :
    (p.spawn job).firstJobs = p.firstJobs ++ [job] := by
  simp [spawn, firstJobs]

@[simp] theorem running_spawn (p : Pool J) (job : J) : (p.spawn job).running = p.running := by
  simp [spawn, running, resumedJobs]

@[simp] theorem firstJobs_takeIdle (p : Pool J) : p.takeIdle.firstJobs = p.firstJobs :=
  firstJobs_wake _

@[simp] theorem running_takeIdle (p : Pool J) : p.takeIdle.running = p.running := running_wake _

@[simp] theorem waiting_takeIdle (p : Pool J) : p.takeIdle.waiting = p.waiting := waiting_wake _

@[simp] theorem firstJobs_leave (p : Pool J) : p.leave.firstJobs = p.firstJobs := firstJobs_wake _

@[simp] theorem running_leave (p : Pool J) : p.leave.running = p.running := running_wake _

@[simp] theorem waiting_leave (p : Pool J) : p.leave.waiting = p.waiting := waiting_wake _

@[simp] theorem firstJobs_begin (p : Pool J) : p.begin.firstJobs = p.firstJobs := rfl

@[simp] theorem waiting_begin (p : Pool J) : p.begin.waiting = p.waiting := rfl

@[simp] theorem running_begin (p : Pool J) : p.begin.running = p.running := rfl

theorem finish_eq (p : Pool J) :
    p.finish = { p with
      busy := p.busy - 1
      completed := p.completed + 1
      ready := (if p.idle.isEmpty then [.woken] else []) ++ p.ready
      idle := p.idle ++ [p.clock + p.settings.keepAliveMs] } := by
  cases idle : p.idle <;> simp [finish, idle]

@[simp] theorem firstJobs_finish (p : Pool J) : p.finish.firstJobs = p.firstJobs := by
  rw [finish_eq]
  by_cases alone : p.idle.isEmpty <;> simp [firstJobs, alone]

@[simp] theorem running_finish (p : Pool J) : p.finish.running = p.running := by
  rw [finish_eq]
  by_cases alone : p.idle.isEmpty <;> simp [running, resumedJobs, alone]

@[simp] theorem waiting_finish (p : Pool J) : p.finish.waiting = p.waiting := by
  rw [waiting, firstJobs_finish, finish_eq]
  rfl

@[simp] theorem firstJobs_suspend (p : Pool J) (job : J) :
    (p.suspend job).firstJobs = p.firstJobs := rfl

@[simp] theorem running_suspend (p : Pool J) (job : J) :
    (p.suspend job).running = p.running ++ [job] := by
  simp [suspend, running, resumedJobs]

@[simp] theorem firstJobs_resume (p : Pool J) (mayGoOn : J → Bool) :
    (p.resume mayGoOn).firstJobs = p.firstJobs := by
  simp [resume, firstJobs, List.filterMap_map]

@[simp] theorem waiting_resume (p : Pool J) (mayGoOn : J → Bool) :
    (p.resume mayGoOn).waiting = p.waiting := by
  rw [waiting, firstJobs_resume]
  rfl

theorem running_resume (p : Pool J) (mayGoOn : J → Bool) :
    (p.resume mayGoOn).running.Perm p.running := by
  have resumed : (p.resume mayGoOn).resumedJobs = p.resumedJobs ++ p.suspended.filter mayGoOn := by
    simp only [resume, resumedJobs, List.filterMap_append, List.filterMap_map]
    exact congrArg (p.resumedJobs ++ ·) List.filterMap_some
  rw [running, running, resumed, List.append_assoc]
  exact (List.filter_append_perm mayGoOn p.suspended).append_left p.resumedJobs

@[simp] theorem waiting_close (p : Pool J) : p.close.waiting = p.waiting := waiting_wake _

@[simp] theorem running_close (p : Pool J) : p.close.running = p.running := running_wake _

/-- How many of so many workers leave when they give up: as many as there are above the
core size. -/
def leaving (p : Pool J) (expired : Nat) : Nat :=
  min expired (p.workers - p.settings.core.toNat).toNat

theorem giveUps_eq (p : Pool J) (expired : Nat) :
    giveUps expired p = { p with
      workers := p.workers - p.leaving expired
      idle := p.idle ++
        List.replicate (expired - p.leaving expired) (p.clock + p.settings.keepAliveMs) } := by
  induction expired generalizing p with
  | zero => simp [giveUps, leaving]
  | succ n ih =>
    rw [giveUps, ih]
    by_cases above : (p.settings.core.toNat : Int) < p.workers
    · have more : p.leaving (n + 1) = p.giveUp.leaving n + 1 := by
        simp only [leaving, giveUp, above, if_true]
        omega
      have workers : p.giveUp.workers = p.workers - 1 := by simp [giveUp, above]
      simp only [more, workers, Nat.add_sub_add_right]
      simp only [giveUp, above, if_true, Pool.mk.injEq, true_and, and_true]
      omega
    · have none : ∀ m, p.leaving m = 0 := by
        intro m
        simp only [leaving]
        omega
      have still : p.giveUp.leaving n = 0 := by
        simp only [leaving, giveUp, above, if_false]
        omega
      rw [still, none]
      simp [giveUp, above, List.replicate_succ]

/-- The idle workers whose deadline has passed when this much time has gone by. -/
def expiring (p : Pool J) (ms : Nat) : Nat := (p.idle.filter (· ≤ p.clock + ms)).length

theorem expiring_add (p : Pool J) (ms : Nat) :
    p.expiring ms + (p.idle.filter (p.clock + ms < ·)).length = p.idle.length := by
  have parts := (List.filter_append_perm (fun deadline => decide (deadline ≤ p.clock + ms))
    p.idle).length_eq
  have later : (fun deadline => decide (p.clock + ms < deadline)) =
      fun deadline => !decide (deadline ≤ p.clock + ms) := by
    simp only [← Nat.not_le, decide_not]
  rw [List.length_append] at parts
  rw [expiring, later]
  exact parts

theorem pass_eq (p : Pool J) (ms : Nat) :
    p.pass ms = { p with
      clock := p.clock + ms
      workers := p.workers - p.leaving (p.expiring ms)
      idle := p.idle.filter (p.clock + ms < ·) ++
        List.replicate (p.expiring ms - p.leaving (p.expiring ms))
          (p.clock + ms + p.settings.keepAliveMs) } := by
  rw [pass, giveUps_eq]
  rfl

theorem setMaxWorkers_eq_ok_iff (p q : Pool J) (n : UInt64) :
    p.setMaxWorkers n = .ok q ↔
      (p.settings.withMaxWorkers n).Usable ∧
        q = { p with settings := p.settings.withMaxWorkers n } := by
  rw [← Settings.check_eq_ok_iff]
  simp only [setMaxWorkers]
  cases (p.settings.withMaxWorkers n).check with
  | ok fine => simp [Except.map, eq_comm]
  | error cause => simp [Except.map]

@[simp] theorem uncountQueued_countQueued (p : Pool J) : p.countQueued.uncountQueued = p := by
  simp [countQueued, uncountQueued]

def joined (p : Pool J) (job : J) : Pool J :=
  wake { p with queued := p.queued + 1, queue := p.queue ++ [job] }

inductive Submitted (p : Pool J) (job : J) : Admission → Pool J → Prop
  | core (small : p.workers < p.settings.core.toNat) : Submitted p job .started (p.spawn job)
  | queued (large : p.settings.core.toNat ≤ p.workers)
      (room : p.queue.length < p.settings.queueCapacity.toNat) :
      Submitted p job .queued (p.joined job)
  | extra (large : p.settings.core.toNat ≤ p.workers)
      (full : p.settings.queueCapacity.toNat ≤ p.queue.length)
      (below : p.workers < p.settings.max.toNat) : Submitted p job .started (p.spawn job)
  | rejected (large : p.settings.core.toNat ≤ p.workers)
      (full : p.settings.queueCapacity.toNat ≤ p.queue.length)
      (top : p.settings.max.toNat ≤ p.workers) : Submitted p job .rejected p.reject

theorem Submitted.waiting_perm {p q : Pool J} {job : J} {admission : Admission}
    (submitted : Submitted p job admission q) :
    q.waiting.Perm (if admission = .rejected then p.waiting else job :: p.waiting) := by
  have spawned : (p.spawn job).waiting.Perm (job :: p.waiting) := by
    rw [waiting, firstJobs_spawn, ← List.append_assoc]
    exact List.perm_append_singleton job _
  cases submitted with
  | core small => exact spawned
  | queued large room =>
    rw [joined, waiting_wake, waiting]
    simp only [List.append_assoc]
    exact List.perm_middle
  | extra large full below => exact spawned
  | rejected large full top => exact .refl _

theorem Submitted.running_eq {p q : Pool J} {job : J} {admission : Admission}
    (submitted : Submitted p job admission q) : q.running = p.running := by
  cases submitted with
  | core small => exact running_spawn p job
  | queued large room => exact running_wake _
  | extra large full below => exact running_spawn p job
  | rejected large full top => rfl

theorem Submitted.kept {p q : Pool J} {job : J} {admission : Admission}
    (submitted : Submitted p job admission q) :
    q.settings = p.settings ∧ q.closed = p.closed ∧ q.completed = p.completed ∧
      q.suspended = p.suspended := by
  cases submitted with
  | queued large room => simp [joined]
  | _ => exact ⟨rfl, rfl, rfl, rfl⟩

theorem Submitted.rejected_eq {p q : Pool J} {job : J} {admission : Admission}
    (submitted : Submitted p job admission q) :
    q.rejected = p.rejected + if admission = .rejected then 1 else 0 := by
  cases submitted with
  | queued large room => simp [joined]
  | _ => rfl

theorem submit_eq_none_iff (p : Pool J) (job : J) : p.submit job = none ↔ p.closed = true := by
  cases closed : p.closed with
  | true => simp [submit, closed]
  | false =>
    simp only [submit, closed, Bool.false_eq_true, if_false, iff_false]
    split
    · simp
    · split
      · simp
      · split <;> simp

theorem submitted_of_submit {p q : Pool J} {job : J} {admission : Admission}
    (submit : p.submit job = some (admission, q)) : Submitted p job admission q := by
  simp only [Pool.submit, uncountQueued_countQueued] at submit
  split at submit
  · cases submit
  split at submit
  next small =>
    cases submit
    exact .core small
  next large =>
    have large : p.settings.core.toNat ≤ p.workers := by omega
    by_cases room : p.queue.length < p.settings.queueCapacity.toNat
    · simp only [enqueue?, countQueued, room, if_true, Option.some.injEq, Prod.mk.injEq] at submit
      obtain ⟨rfl, rfl⟩ := submit
      exact .queued large room
    · simp only [enqueue?, countQueued, room, if_false] at submit
      split at submit
      next below =>
        cases submit
        exact .extra large (by omega) below
      next top =>
        cases submit
        exact .rejected large (by omega) (by omega)

def beginning? (p : Pool J) : Option J :=
  match p.ready with
  | .first job :: _ => some job
  | .woken :: _ => if p.idle.isEmpty then none else p.queue.head?
  | _ => none

/-- What a turn can come to: the pool afterwards, the job that it hands out, and the job
that it begins. -/
inductive Turned (p : Pool J) : Pool J → Option J → Option J → Prop
  | first (job : J) (rest : List (Turn J)) (next : p.ready = .first job :: rest) :
      Turned p (begin { p with ready := rest }) (some job) (some job)
  | resumed (job : J) (rest : List (Turn J)) (next : p.ready = .resumed job :: rest) :
      Turned p { p with ready := rest } (some job) none
  | taken (job : J) (jobs : List J) (rest : List (Turn J)) (next : p.ready = .woken :: rest)
      (idle : p.idle ≠ []) (queue : p.queue = job :: jobs) :
      Turned p (begin (takeIdle { p with
        ready := rest, queue := jobs, queued := p.queued - 1 })) (some job) (some job)
  | left (rest : List (Turn J)) (next : p.ready = .woken :: rest) (idle : p.idle ≠ [])
      (queue : p.queue = []) (closed : p.closed = true) :
      Turned p (leave { p with ready := rest }) none none
  | unneeded (rest : List (Turn J)) (next : p.ready = .woken :: rest)
      (nothing : p.idle = [] ∨ p.queue = [] ∧ p.closed = false) :
      Turned p { p with ready := rest } none none

theorem turned_of_turn {p q : Pool J} {out : Option J} (turn : p.turn = some (q, out)) :
    Turned p q out p.beginning? := by
  simp only [Pool.turn] at turn
  cases next : p.ready with
  | nil => simp [next] at turn
  | cons head rest =>
    cases head with
    | first job =>
      simp only [next, Option.some.injEq, Prod.mk.injEq] at turn
      obtain ⟨rfl, rfl⟩ := turn
      simpa [beginning?, next] using Turned.first job rest next
    | resumed job =>
      simp only [next, Option.some.injEq, Prod.mk.injEq] at turn
      obtain ⟨rfl, rfl⟩ := turn
      simpa [beginning?, next] using Turned.resumed job rest next
    | woken =>
      simp only [next, wokenTurn, Option.some.injEq] at turn
      split at turn
      next empty =>
        cases turn
        simpa [beginning?, next, empty] using
          Turned.unneeded rest next (.inl (List.isEmpty_iff.1 empty))
      next idle =>
        have nonempty : p.idle ≠ [] := fun none => idle (by simp [none])
        split at turn
        next job jobs queue =>
          cases turn
          simpa [beginning?, uncountQueued, next, idle, queue] using
            Turned.taken job jobs rest next nonempty queue
        next queue =>
          split at turn
          next closed =>
            cases turn
            simpa [beginning?, next, idle, queue] using Turned.left rest next nonempty queue closed
          next running =>
            cases turn
            simpa [beginning?, next, idle, queue] using
              Turned.unneeded rest next (.inr ⟨queue, by simpa using running⟩)

theorem Turned.waiting_perm {p q : Pool J} {out began : Option J}
    (turned : Turned p q out began) : p.waiting.Perm (began.toList ++ q.waiting) := by
  cases turned with
  | first job rest next =>
    rw [waiting_begin]
    simp only [waiting, firstJobs, next]
    exact List.perm_middle
  | resumed job rest next => simp [waiting, firstJobs, next]
  | taken job jobs rest next idle queue =>
    rw [waiting_begin, waiting_takeIdle]
    simp [waiting, firstJobs, next, queue]
  | left rest next idle queue closed =>
    rw [waiting_leave]
    simp [waiting, firstJobs, next]
  | unneeded rest next nothing => simp [waiting, firstJobs, next]

theorem Turned.running_perm {p q : Pool J} {out began : Option J}
    (turned : Turned p q out began) :
    (began.toList ++ p.running).Perm (out.toList ++ q.running) := by
  cases turned with
  | first job rest next =>
    rw [running_begin]
    simp [running, resumedJobs, next]
  | resumed job rest next => simp [running, resumedJobs, next]
  | taken job jobs rest next idle queue =>
    rw [running_begin, running_takeIdle]
    simp [running, resumedJobs, next]
  | left rest next idle queue closed =>
    rw [running_leave]
    simp [running, resumedJobs, next]
  | unneeded rest next nothing => simp [running, resumedJobs, next]

theorem Turned.kept {p q : Pool J} {out began : Option J} (turned : Turned p q out began) :
    q.settings = p.settings ∧ q.closed = p.closed ∧ q.completed = p.completed ∧
      q.rejected = p.rejected ∧ q.suspended = p.suspended := by
  cases turned with
  | taken job jobs rest next idle queue => simp [begin, takeIdle]
  | left rest next idle queue closed => simp [leave, takeIdle]
  | _ => exact ⟨rfl, rfl, rfl, rfl, rfl⟩

theorem Turned.began_eq {p q : Pool J} {out began : Option J} (turned : Turned p q out began) :
    began = none ∨ began = out := by
  cases turned <;> simp

theorem turn_eq_none_iff (p : Pool J) : p.turn = none ↔ p.ready = [] := by
  cases next : p.ready with
  | nil => simp [Pool.turn, next]
  | cons head rest => cases head <;> simp [Pool.turn, next]

end StanzaDelivery.Pool
