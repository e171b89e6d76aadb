import StanzaDelivery.Proofs.Pool.Progress

/-! Jobs that are submitted one after the other while a worker still has its own job in
hand. They only wait; and however many they are, they wake no more than one idle worker. -/

namespace StanzaDelivery.Pool

open scoped List

variable {J : Type}

inductive Intake (p : Pool J) : List J → Pool J → Prop
  | none : Intake p [] p
  | submit {jobs : List J} {q after : Pool J} {job : J} {admission : Admission}
      (before : Intake p jobs q) (submitted : Submitted q job admission after) :
      Intake p (if admission = .rejected then jobs else jobs ++ [job]) after

variable {p q : Pool J} {jobs : List J}

theorem Intake.waiting_perm (intake : p.Intake jobs q) : q.waiting.Perm (jobs ++ p.waiting) := by
  induction intake with
  | none => exact .refl _
  | submit before submitted ih =>
    refine submitted.waiting_perm.trans ?_
    split
    · exact ih
    · exact (ih.cons _).trans (List.perm_append_singleton _ _ |>.symm.append_right _)

theorem Submitted.idle_eq {job : J} {admission : Admission}
    (submitted : Submitted p job admission q) : q.idle = p.idle := by
  cases submitted with
  | queued large room => simp [joined]
  | _ => rfl

theorem Intake.kept (intake : p.Intake jobs q) :
    q.running = p.running ∧ q.suspended = p.suspended ∧ q.closed = p.closed ∧
      q.idle = p.idle := by
  induction intake with
  | none => exact ⟨rfl, rfl, rfl, rfl⟩
  | submit before submitted ih =>
    obtain ⟨running, suspended, closed, idle⟩ := ih
    obtain ⟨_, stays, _, held⟩ := submitted.kept
    exact ⟨submitted.running_eq.trans running, held.trans suspended, stays.trans closed,
      submitted.idle_eq.trans idle⟩

theorem Intake.balanced {inHand : Nat} (intake : p.Intake jobs q) (balanced : p.Balanced inHand) :
    q.Balanced inHand := by
  induction intake with
  | none => exact balanced
  | submit before submitted ih => exact ih.submit submitted

theorem Intake.staffed (intake : p.Intake jobs q) (staffed : p.Staffed) : q.Staffed := by
  induction intake with
  | none => exact staffed
  | submit before submitted ih => exact ih.submit submitted

def unfinished (p : Pool J) : List J := p.waiting ++ p.running

theorem Intake.unfinished_perm (intake : p.Intake jobs q) :
    q.unfinished.Perm (jobs ++ p.unfinished) := by
  rw [unfinished, unfinished, intake.kept.1, ← List.append_assoc]
  exact intake.waiting_perm.append_right _

theorem Submitted.unfinished_perm {job : J} {admission : Admission}
    (submitted : Submitted p job admission q) :
    q.unfinished.Perm (if admission = .rejected then p.unfinished else job :: p.unfinished) := by
  rw [unfinished, unfinished, submitted.running_eq]
  refine (submitted.waiting_perm.append_right p.running).trans ?_
  split
  · exact .refl _
  · exact .refl _

theorem Turned.unfinished_perm {out began : Option J} (turned : Turned p q out began) :
    p.unfinished.Perm (out.toList ++ q.unfinished) := by
  rw [unfinished, unfinished]
  calc
    p.waiting ++ p.running
    _ ~ began.toList ++ q.waiting ++ p.running := turned.waiting_perm.append_right _
    _ ~ q.waiting ++ (began.toList ++ p.running) := by
      rw [← List.append_assoc]
      exact List.perm_append_comm.append_right _
    _ ~ q.waiting ++ (out.toList ++ q.running) := turned.running_perm.append_left _
    _ ~ out.toList ++ (q.waiting ++ q.running) := by
      rw [← List.append_assoc, ← List.append_assoc]
      exact List.perm_append_comm.append_right _

theorem unfinished_finish (p : Pool J) : p.finish.unfinished = p.unfinished := by
  rw [unfinished, waiting_finish, running_finish, unfinished]

theorem unfinished_suspend (p : Pool J) (job : J) :
    (p.suspend job).unfinished = p.unfinished ++ [job] := by
  rw [unfinished, running_suspend, ← List.append_assoc]
  rfl

theorem length_wakening_le (p : Pool J) : p.wakening.length ≤ 1 := by
  unfold wakening
  split <;> simp

theorem wakening_of_idle_eq_nil (p : Pool J) (nobody : p.idle = []) : p.wakening = [] := by
  simp [wakening, nobody]

theorem wakening_wake (p : Pool J) : p.wake.wakening = [] := by
  by_cases idle : p.idle = []
  · exact p.wake.wakening_of_idle_eq_nil (by rw [idle_wake, idle])
  · have woken : p.wake.ready.any isWoken = true :=
      List.any_eq_true.2 ⟨.woken, p.woken_mem_wake idle, rfl⟩
    simp [wakening, woken]

theorem effort_wake (weight : J → Nat) (p : Pool J) :
    p.wake.effort weight = p.effort weight + p.wakening.length := by
  have woken : p.wakening.countP isWoken = p.wakening.length := by
    unfold wakening
    split <;> rfl
  rw [effort, effort, workload_wake, idle_wake]
  simp only [wake_eq, List.countP_append, woken]
  omega

theorem total_append (weight : J → Nat) (some more : List J) :
    total weight (some ++ more) = total weight some + total weight more := by
  induction some with
  | nil => simp
  | cons job rest ih => simp [ih, Nat.add_assoc]

theorem effort_spawn (weight : J → Nat) (p : Pool J) (job : J) :
    (p.spawn job).effort weight = p.effort weight + 4 * weight job := by
  have resumed : (p.spawn job).resumedJobs = p.resumedJobs := by simp [spawn, resumedJobs]
  simp only [effort, workload, firstJobs_spawn, resumed, total_append]
  simp [spawn, isWoken]
  omega

theorem Submitted.effort_le {job : J} {admission : Admission} (weight : J → Nat)
    (submitted : Submitted p job admission q) :
    q.effort weight + q.wakening.length ≤ p.effort weight + p.wakening.length +
      if admission = .rejected then 0 else 4 * weight job := by
  have spawned : (p.spawn job).effort weight + (p.spawn job).wakening.length =
      p.effort weight + p.wakening.length + 4 * weight job := by
    have same : (p.spawn job).wakening = p.wakening := by simp [wakening, spawn, isWoken]
    rw [effort_spawn, same]
    omega
  cases submitted with
  | core small => simp [spawned]
  | queued large room =>
    have queued : { p with queued := p.queued + 1, queue := p.queue ++ [job] }.effort weight =
        p.effort weight + 4 * weight job := by
      simp [effort, workload, firstJobs, resumedJobs, total_append]
      omega
    rw [joined, wakening_wake, effort_wake, queued]
    simp [wakening]
    omega
  | extra large full below => simp [spawned]
  | rejected large full top => simp [reject, effort, workload, firstJobs, resumedJobs, wakening]

theorem Intake.effort_le (weight : J → Nat) (intake : p.Intake jobs q) :
    q.effort weight + q.wakening.length ≤
      p.effort weight + p.wakening.length + 4 * total weight jobs := by
  induction intake with
  | none => simp
  | submit before submitted ih =>
    have more := submitted.effort_le weight
    split
    next rejected =>
      rw [if_pos rejected] at more
      omega
    next admitted =>
      rw [if_neg admitted] at more
      rw [total_append, total_cons, total_nil]
      omega

theorem effort_finish (weight : J → Nat) (p : Pool J) :
    p.finish.effort weight = p.effort weight + if p.idle.isEmpty then 3 else 2 := by
  rw [finish_eq, effort, effort]
  by_cases alone : p.idle.isEmpty
  · simp [workload, firstJobs, resumedJobs, alone, isWoken, List.countP_cons]
    omega
  · simp [workload, firstJobs, resumedJobs, alone]
    omega

/-- A worker that ends its job after these submissions goes on waiting at no higher price
than if it had submitted nothing: either somebody else was idle, or nobody was woken. -/
theorem Intake.effort_finish_le (weight : J → Nat) (intake : p.Intake jobs q) :
    q.finish.effort weight ≤ p.effort weight + 4 * total weight jobs + 3 := by
  have grown := intake.effort_le weight
  have idle := intake.kept.2.2.2
  rw [effort_finish]
  by_cases nobody : p.idle = []
  · rw [p.wakening_of_idle_eq_nil nobody, List.length_nil] at grown
    rw [idle, nobody]
    simp
    omega
  · have one := p.length_wakening_le
    have others : q.idle.isEmpty = false := by simpa [idle] using nobody
    rw [others]
    simp
    omega

end StanzaDelivery.Pool
