import StanzaDelivery.Proofs.Pool.Balance
import StanzaDelivery.Proofs.Pool.Staffing

/-! The effort that is left in a pool goes down with every turn, by enough to pay for what
the worker of the job does when the job is over. A closed pool in which nobody has a turn
and nobody is held up has come to its end. -/

namespace StanzaDelivery.Pool

variable {J : Type}

@[simp] theorem total_nil (weight : J → Nat) : total weight [] = 0 := rfl

@[simp] theorem total_cons (weight : J → Nat) (job : J) (rest : List J) :
    total weight (job :: rest) = weight job + total weight rest := rfl

theorem workload_wake (weight : J → Nat) (p : Pool J) :
    p.wake.workload weight = p.workload weight := by
  rw [workload, workload, queue_wake, firstJobs_wake, resumedJobs_wake]

theorem effort_wake_le (weight : J → Nat) (p : Pool J) :
    p.wake.effort weight ≤ p.effort weight + 1 := by
  have woken : p.wake.ready.countP isWoken ≤ p.ready.countP isWoken + 1 := by
    unfold wake
    split
    · omega
    · simp [isWoken]
  rw [effort, effort, workload_wake, idle_wake]
  omega

theorem effort_takeIdle_lt (weight : J → Nat) (p : Pool J) (idle : p.idle ≠ []) :
    p.takeIdle.effort weight < p.effort weight := by
  have waits := List.length_pos_iff.2 idle
  have woken := effort_wake_le weight { p with idle := p.idle.tail }
  have fewer : { p with idle := p.idle.tail }.effort weight + 2 = p.effort weight := by
    rw [effort, effort]
    simp only [workload, firstJobs, resumedJobs, List.length_tail]
    omega
  rw [takeIdle]
  omega

theorem Turned.effort_lt {p q : Pool J} {began : Option J} (weight : J → Nat)
    (turned : Turned p q none began) : q.effort weight < p.effort weight := by
  cases turned with
  | left rest next idle queue closed =>
    have fewer := effort_takeIdle_lt weight
      { p with ready := rest, workers := p.workers - 1 } idle
    have used : { p with ready := rest, workers := p.workers - 1 }.effort weight + 1 =
        p.effort weight := by
      simp [effort, workload, firstJobs, resumedJobs, next, isWoken, List.countP_cons]
      omega
    exact Nat.lt_of_lt_of_le fewer (by omega)
  | unneeded rest next nothing =>
    simp [effort, workload, firstJobs, resumedJobs, next, isWoken, List.countP_cons]

theorem Turned.effort_le {p q : Pool J} {job : J} {began : Option J} (weight : J → Nat)
    (turned : Turned p q (some job) began) :
    q.effort weight + 4 * weight job ≤ p.effort weight := by
  cases turned with
  | first _ rest next =>
    simp [effort, workload, begin, firstJobs, resumedJobs, next, isWoken]
    omega
  | resumed _ rest next =>
    simp [effort, workload, firstJobs, resumedJobs, next, isWoken]
    omega
  | taken _ jobs rest next idle queue =>
    have fewer := effort_takeIdle_lt weight
      { p with ready := rest, queue := jobs, queued := p.queued - 1 } idle
    have used : { p with ready := rest, queue := jobs, queued := p.queued - 1 }.effort weight +
        4 * weight job + 1 = p.effort weight := by
      simp [effort, workload, firstJobs, resumedJobs, next, queue, isWoken, List.countP_cons]
      omega
    have same : ∀ q : Pool J, q.begin.effort weight = q.effort weight := fun _ => rfl
    rw [same]
    omega

theorem effort_finish_le (weight : J → Nat) (p : Pool J) :
    p.finish.effort weight ≤ p.effort weight + 3 := by
  rw [finish_eq, effort, effort]
  by_cases alone : p.idle.isEmpty
  · simp [workload, firstJobs, resumedJobs, alone, isWoken, List.countP_cons]
    omega
  · simp [workload, firstJobs, resumedJobs, alone]
    omega

theorem effort_suspend (weight : J → Nat) (p : Pool J) (job : J) :
    (p.suspend job).effort weight = p.effort weight := rfl

theorem ended_of_still {p : Pool J} (staffed : p.Staffed) (balanced : p.Balanced 0)
    (closed : p.closed = true) (still : p.ready = []) (free : p.suspended = []) :
    (p.waiting = [] ∧ p.running = []) ∧
      p.queue = [] ∧ p.workers = 0 ∧ p.busy = 0 ∧ p.queued = 0 := by
  have firstJobs : p.firstJobs = [] := by simp [Pool.firstJobs, still]
  have running : p.running = [] := by simp [Pool.running, resumedJobs, still, free]
  have idle : p.idle = [] := staffed.idle_eq_nil still (.inr closed)
  obtain ⟨queued, busy, workers, _⟩ := balanced
  rw [firstJobs, running, idle] at workers
  have queue : p.queue = [] := by
    by_cases empty : p.queue = []
    · exact empty
    · have some := staffed.manned empty
      rw [workers] at some
      simp at some
  rw [running] at busy
  rw [queue] at queued
  refine ⟨⟨?_, running⟩, queue, workers, busy, queued⟩
  rw [waiting, queue, firstJobs]
  rfl

end StanzaDelivery.Pool
