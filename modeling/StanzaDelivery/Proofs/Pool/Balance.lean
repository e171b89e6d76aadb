import StanzaDelivery.Proofs.Pool.Crew

/-! The counters of a pool agree with its crew and its queue. A job that a turn has handed
out is in the hands of its worker until it is finished or suspended; it counts as run, and
its worker as alive, although no list of the pool shows them meanwhile. -/

namespace StanzaDelivery.Pool

variable {J : Type}

structure Balanced (p : Pool J) (inHand : Nat) : Prop where
  queued : p.queued = p.queue.length
  busy : p.busy = p.running.length + inHand
  workers : p.workers = p.firstJobs.length + p.running.length + p.idle.length + inHand
  room : p.queue.length ≤ p.settings.queueCapacity.toNat

def accounted (p : Pool J) : Nat := p.completed + p.running.length + p.waiting.length

theorem length_waiting (p : Pool J) :
    p.waiting.length = p.queue.length + p.firstJobs.length := by
  simp [waiting]

theorem balanced_empty (settings : Settings) : (empty settings : Pool J).Balanced 0 :=
  ⟨rfl, rfl, rfl, Nat.zero_le _⟩

theorem Balanced.wake {p : Pool J} {inHand : Nat} (balanced : p.Balanced inHand) :
    p.wake.Balanced inHand := by
  obtain ⟨queued, busy, workers, room⟩ := balanced
  refine ⟨?_, ?_, ?_, ?_⟩
  · rw [wake_eq]
    exact queued
  · rw [running_wake, wake_eq]
    exact busy
  · rw [running_wake, firstJobs_wake, wake_eq]
    exact workers
  · rw [wake_eq]
    exact room

theorem Balanced.spawn {p : Pool J} {inHand : Nat} (balanced : p.Balanced inHand) (job : J) :
    (p.spawn job).Balanced inHand := by
  obtain ⟨queued, busy, workers, room⟩ := balanced
  refine ⟨queued, ?_, ?_, room⟩
  · rw [running_spawn]
    exact busy
  · rw [running_spawn, firstJobs_spawn, List.length_append, List.length_singleton]
    simp only [Pool.spawn]
    omega

theorem Balanced.joined {p : Pool J} {inHand : Nat} (balanced : p.Balanced inHand) (job : J)
    (room : p.queue.length < p.settings.queueCapacity.toNat) :
    (p.joined job).Balanced inHand := by
  obtain ⟨queued, busy, workers, _⟩ := balanced
  apply Balanced.wake
  refine ⟨?_, busy, workers, ?_⟩
  · simp only [List.length_append, List.length_singleton]
    omega
  · simp only [List.length_append, List.length_singleton]
    omega

theorem Balanced.submit {p q : Pool J} {inHand : Nat} {job : J} {admission : Admission}
    (balanced : p.Balanced inHand) (submitted : Submitted p job admission q) :
    q.Balanced inHand := by
  cases submitted with
  | core small => exact balanced.spawn job
  | queued large room => exact balanced.joined job room
  | extra large full below => exact balanced.spawn job
  | rejected large full top =>
    obtain ⟨queued, busy, workers, room⟩ := balanced
    exact ⟨queued, busy, workers, room⟩

theorem accounted_submit {p q : Pool J} {job : J} {admission : Admission}
    (submitted : Submitted p job admission q) :
    q.accounted = p.accounted + if admission = .rejected then 0 else 1 := by
  have waiting := submitted.waiting_perm.length_eq
  have completed := submitted.kept.2.2.1
  rw [accounted, accounted, submitted.running_eq, completed, waiting]
  split
  · rfl
  · rw [List.length_cons]
    omega

theorem Balanced.turned {p q : Pool J} {inHand : Nat} {out began : Option J}
    (balanced : p.Balanced inHand) (turned : Turned p q out began) :
    q.Balanced (inHand + out.toList.length) := by
  obtain ⟨queued, busy, workers, room⟩ := balanced
  cases turned with
  | first job rest next =>
    refine ⟨queued, ?_, ?_, room⟩
    · simp [running, resumedJobs, next, begin] at *
      omega
    · simp [running, resumedJobs, firstJobs, next, begin] at *
      omega
  | resumed job rest next =>
    refine ⟨queued, ?_, ?_, room⟩
    · simp [running, resumedJobs, next] at *
      omega
    · simp [running, resumedJobs, firstJobs, next] at *
      omega
  | taken job jobs rest next idle queue =>
    have waits := List.length_pos_iff.2 idle
    refine ⟨?_, ?_, ?_, ?_⟩
    · simp [takeIdle, queue, begin] at *
      omega
    · rw [running_begin, running_takeIdle]
      simp [running, resumedJobs, next, takeIdle, begin] at *
      omega
    · rw [running_begin, running_takeIdle, firstJobs_begin, firstJobs_takeIdle]
      simp [running, resumedJobs, firstJobs, next, takeIdle, begin] at *
      omega
    · simp [takeIdle, queue, begin] at *
      omega
  | left rest next idle queue closed =>
    have waits := List.length_pos_iff.2 idle
    refine ⟨?_, ?_, ?_, ?_⟩
    · simpa [leave, takeIdle] using queued
    · rw [running_leave]
      simpa [running, resumedJobs, next, leave, takeIdle] using busy
    · rw [running_leave, firstJobs_leave]
      simp [running, resumedJobs, firstJobs, next, leave, takeIdle] at *
      omega
    · simpa [leave, takeIdle] using room
  | unneeded rest next nothing =>
    refine ⟨queued, ?_, ?_, room⟩
    · simpa [running, resumedJobs, next] using busy
    · simpa [running, resumedJobs, firstJobs, next] using workers

theorem accounted_turned {p q : Pool J} {out began : Option J} (turned : Turned p q out began) :
    q.accounted + out.toList.length = p.accounted := by
  have waiting := turned.waiting_perm.length_eq
  have running := turned.running_perm.length_eq
  have completed := turned.kept.2.2.1
  simp only [List.length_append] at waiting running
  simp only [accounted, completed]
  omega

theorem Balanced.finish {p : Pool J} {inHand : Nat} (balanced : p.Balanced (inHand + 1)) :
    p.finish.Balanced inHand := by
  obtain ⟨queued, busy, workers, room⟩ := balanced
  refine ⟨?_, ?_, ?_, ?_⟩
  · rw [finish_eq]
    exact queued
  · rw [running_finish, finish_eq]
    dsimp only
    omega
  · rw [running_finish, firstJobs_finish, finish_eq]
    simp only [List.length_append, List.length_singleton]
    omega
  · rw [finish_eq]
    exact room

theorem accounted_finish (p : Pool J) : p.finish.accounted = p.accounted + 1 := by
  rw [accounted, accounted, running_finish, waiting_finish, finish_eq]
  dsimp only
  omega

theorem Balanced.suspend {p : Pool J} {inHand : Nat} (balanced : p.Balanced (inHand + 1))
    (job : J) : (p.suspend job).Balanced inHand := by
  obtain ⟨queued, busy, workers, room⟩ := balanced
  refine ⟨queued, ?_, ?_, room⟩
  · rw [running_suspend, List.length_append, List.length_singleton]
    simp only [Pool.suspend]
    omega
  · rw [running_suspend, firstJobs_suspend, List.length_append, List.length_singleton]
    simp only [Pool.suspend]
    omega

theorem accounted_suspend (p : Pool J) (job : J) :
    (p.suspend job).accounted = p.accounted + 1 := by
  rw [accounted, accounted, running_suspend, List.length_append, List.length_singleton]
  simp only [Pool.suspend, length_waiting, firstJobs]
  omega

theorem Balanced.resume {p : Pool J} {inHand : Nat} (balanced : p.Balanced inHand)
    (mayGoOn : J → Bool) : (p.resume mayGoOn).Balanced inHand := by
  obtain ⟨queued, busy, workers, room⟩ := balanced
  have same := (running_resume p mayGoOn).length_eq
  refine ⟨queued, ?_, ?_, room⟩
  · rw [same]
    exact busy
  · rw [same, firstJobs_resume]
    exact workers

theorem accounted_resume (p : Pool J) (mayGoOn : J → Bool) :
    (p.resume mayGoOn).accounted = p.accounted := by
  rw [accounted, accounted, (running_resume p mayGoOn).length_eq, waiting_resume]
  rfl

theorem Balanced.close {p : Pool J} {inHand : Nat} (balanced : p.Balanced inHand) :
    p.close.Balanced inHand :=
  Balanced.wake ⟨balanced.queued, balanced.busy, balanced.workers, balanced.room⟩

theorem accounted_close (p : Pool J) : p.close.accounted = p.accounted := by
  rw [accounted, accounted, running_close, waiting_close, close, completed_wake]

theorem Balanced.pass {p : Pool J} {inHand : Nat} (balanced : p.Balanced inHand) (ms : Nat) :
    (p.pass ms).Balanced inHand := by
  obtain ⟨queued, busy, workers, room⟩ := balanced
  have parts := p.expiring_add ms
  have some : p.leaving (p.expiring ms) ≤ p.expiring ms := Nat.min_le_left ..
  rw [pass_eq]
  refine ⟨queued, busy, ?_, room⟩
  simp only [List.length_append, List.length_replicate]
  simp only [running, resumedJobs, firstJobs] at *
  omega

theorem accounted_pass (p : Pool J) (ms : Nat) : (p.pass ms).accounted = p.accounted := by
  rw [pass_eq]
  rfl

theorem Balanced.setMaxWorkers {p q : Pool J} {inHand : Nat} {n : UInt64}
    (balanced : p.Balanced inHand) (set : p.setMaxWorkers n = .ok q) : q.Balanced inHand := by
  obtain ⟨_, rfl⟩ := (setMaxWorkers_eq_ok_iff p q n).1 set
  exact ⟨balanced.queued, balanced.busy, balanced.workers, balanced.room⟩

theorem Balanced.setKeepAlive {p : Pool J} {inHand : Nat} (balanced : p.Balanced inHand)
    (ms : Nat) : (p.setKeepAlive ms).Balanced inHand :=
  ⟨balanced.queued, balanced.busy, balanced.workers, balanced.room⟩

theorem Balanced.takeThroughput {p : Pool J} {inHand : Nat} (balanced : p.Balanced inHand) :
    p.takeThroughput.2.Balanced inHand :=
  ⟨balanced.queued, balanced.busy, balanced.workers, balanced.room⟩

end StanzaDelivery.Pool
