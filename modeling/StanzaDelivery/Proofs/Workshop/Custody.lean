import StanzaDelivery.Proofs.Workshop.Accounts

/-! Where each job is. A job is answered once; from an admission on it waits, is run, or is
over, and it passes from one to the next once and never back. What a job's status says is
what has happened to it. -/

namespace StanzaDelivery.Workshop

def Event.answers (id : Nat) : Event → Bool
  | .answered n _ => n == id
  | _ => false

def Event.admits (id : Nat) (event : Event) : Bool := event.isAdmission && event.answers id

def standing (history : List Event) (id : Nat) (mode : Mode) : Status :=
  if 0 < history.count (.ended id) then if mode = .failing then .failed else .done
  else if 0 < history.count (.began id) then .running
  else if 0 < history.countP (Event.admits id) then .waiting
  else .dropped

structure Tracked (history : List Event) (w : Workshop) : Prop where
  answered : ∀ id, history.countP (Event.answers id) = if id < w.jobs.length then 1 else 0
  begun : ∀ id, w.pool.waiting.count id + history.count (.began id) =
    history.countP (Event.admits id)
  finished : ∀ id, w.pool.running.count id + history.count (.ended id) = history.count (.began id)
  shut : ∀ id ∈ w.pool.suspended, w.mustWait id = true
  status : ∀ id job, w.job? id = some job → job.status = standing history id job.mode

theorem countP_admits_le (history : List Event) (id : Nat) :
    history.countP (Event.admits id) ≤ history.countP (Event.answers id) := by
  apply List.countP_mono_left
  intro event _ admits
  exact (Bool.and_eq_true_iff.1 admits).2

variable {history : List Event} {w : Workshop}

theorem Tracked.admitted_le_one (tracked : Tracked history w) (id : Nat) :
    history.countP (Event.admits id) ≤ 1 := by
  have once := tracked.answered id
  have less := countP_admits_le history id
  split at once <;> omega

theorem job?_setStatus (w : Workshop) (id n : Nat) (status : Status) :
    (w.setStatus id status).job? n =
      (w.job? n).map fun job => if id = n then { job with status := status } else job := by
  simp only [job?, setStatus, List.getElem?_modify]
  rfl

theorem mustWait_setStatus (w : Workshop) (id n : Nat) (status : Status) :
    (w.setStatus id status).mustWait n = w.mustWait n := by
  unfold mustWait
  rw [job?_setStatus]
  cases w.job? n with
  | none => rfl
  | some job =>
    obtain ⟨mode, opened, status⟩ := job
    by_cases same : id = n
    · cases mode <;> cases opened <;> simp [same]
    · simp [same]

theorem length_setStatus (w : Workshop) (id : Nat) (status : Status) :
    (w.setStatus id status).jobs.length = w.jobs.length := by
  simp [setStatus]

theorem lt_of_mustWait {id : Nat} (wait : w.mustWait id = true) : id < w.jobs.length := by
  by_cases inside : id < w.jobs.length
  · exact inside
  · have none : w.job? id = none := List.getElem?_eq_none (Nat.le_of_not_lt inside)
    simp [mustWait, none] at wait

theorem outcome_eq {id : Nat} {job : Job} (known : w.job? id = some job) :
    w.outcome id = if job.mode = .failing then .failed else .done := by
  obtain ⟨mode, opened, status⟩ := job
  unfold outcome
  rw [known]
  cases mode <;> rfl

theorem count_began (began : Option Nat) (id : Nat) :
    (began.map Event.began).toList.count (.began id) = began.toList.count id := by
  cases began with
  | none => rfl
  | some n => simp [List.count_singleton]

theorem count_ended (began : Option Nat) (id : Nat) :
    (began.map Event.began).toList.count (.ended id) = 0 := by
  cases began with
  | none => rfl
  | some n => simp

theorem Turned.waiting_count {next : Workshop} {events : List Event}
    (turned : w.Turned next events) (id : Nat) :
    w.pool.waiting.count id = events.count (.began id) + next.pool.waiting.count id := by
  cases turned with
  | quiet pool turned => simpa using turned.waiting_perm.count_eq id
  | waiting pool n began turned wait =>
    have count := turned.waiting_perm.count_eq id
    rw [List.count_append] at count
    rw [count_began]
    exact count
  | ending pool n began turned free =>
    have count := turned.waiting_perm.count_eq id
    rw [List.count_append] at count
    rw [List.count_append, count_began, Pool.waiting_finish]
    simpa using count

theorem Turned.running_count {next : Workshop} {events : List Event}
    (turned : w.Turned next events) (id : Nat) :
    events.count (.began id) + w.pool.running.count id =
      events.count (.ended id) + next.pool.running.count id := by
  cases turned with
  | quiet pool turned => simpa using turned.running_perm.count_eq id
  | waiting pool n began turned wait =>
    have count := turned.running_perm.count_eq id
    simp only [List.count_append, Option.toList_some] at count
    rw [count_began, count_ended, Pool.running_suspend, List.count_append]
    omega
  | ending pool n began turned free =>
    have count := turned.running_perm.count_eq id
    simp only [List.count_append, Option.toList_some] at count
    rw [List.count_append, List.count_append, count_began, count_ended, Pool.running_finish]
    simpa [List.count_singleton] using count

theorem Turned.answers {next : Workshop} {events : List Event}
    (turned : w.Turned next events) (id : Nat) : events.countP (Event.answers id) = 0 :=
  List.countP_eq_zero.2 (turned.forall_events (fun _ => nofun) fun _ => nofun)

theorem Turned.mustWait {next : Workshop} {events : List Event}
    (turned : w.Turned next events) (id : Nat) : next.mustWait id = w.mustWait id := by
  cases turned with
  | quiet pool turned => rfl
  | waiting pool n began turned wait => exact w.mustWait_setStatus n id _
  | ending pool n began turned free => exact w.mustWait_setStatus n id _

theorem Turned.length_jobs {next : Workshop} {events : List Event}
    (turned : w.Turned next events) : next.jobs.length = w.jobs.length := by
  cases turned with
  | quiet pool turned => rfl
  | waiting pool id began turned wait => exact w.length_setStatus id _
  | ending pool id began turned free => exact w.length_setStatus id _

theorem Turned.shut {next : Workshop} {events : List Event} (turned : w.Turned next events)
    (shut : ∀ id ∈ w.pool.suspended, w.mustWait id = true) :
    ∀ id ∈ next.pool.suspended, next.mustWait id = true := by
  intro id held
  rw [turned.mustWait]
  cases turned with
  | quiet pool turned =>
    rw [turned.kept.2.2.2.2] at held
    exact shut id held
  | waiting pool n began turned wait =>
    simp only [Pool.suspend, turned.kept.2.2.2.2, List.mem_append, List.mem_singleton] at held
    rcases held with before | rfl
    · exact shut id before
    · exact wait
  | ending pool n began turned free =>
    rw [Pool.finish_eq] at held
    exact shut id (turned.kept.2.2.2.2 ▸ held)

theorem standing_of_quiet {later : List Event} {id : Nat}
    (began : later.count (.began id) = 0) (ended : later.count (.ended id) = 0)
    (admits : later.countP (Event.admits id) = 0) (mode : Mode) :
    standing (history ++ later) id mode = standing history id mode := by
  simp only [standing, List.count_append, List.countP_append, began, ended, admits, Nat.add_zero]

theorem standing_running {id : Nat} (began : 0 < history.count (.began id))
    (ended : history.count (.ended id) = 0) (mode : Mode) :
    standing history id mode = .running := by
  simp [standing, began, ended]

theorem standing_ended {id : Nat} (ended : 0 < history.count (.ended id)) (mode : Mode) :
    standing history id mode = if mode = .failing then .failed else .done := by
  simp [standing, ended]

theorem count_began_other {began : Option Nat} {n id : Nat}
    (one : began = none ∨ began = some n) (other : n ≠ id) : began.toList.count id = 0 := by
  rcases one with rfl | rfl
  · rfl
  · simp [other]

theorem Turned.admits {next : Workshop} {events : List Event}
    (turned : w.Turned next events) (id : Nat) : events.countP (Event.admits id) = 0 := by
  have less := countP_admits_le events id
  rw [turned.answers] at less
  omega

theorem Tracked.begun_turn {next : Workshop} {events : List Event} (tracked : Tracked history w)
    (turned : w.Turned next events) (id : Nat) :
    next.pool.waiting.count id + (history ++ events).count (.began id) =
      (history ++ events).countP (Event.admits id) := by
  have before := tracked.begun id
  have moved := turned.waiting_count id
  rw [List.count_append, List.countP_append, turned.admits]
  omega

theorem Tracked.finished_turn {next : Workshop} {events : List Event} (tracked : Tracked history w)
    (turned : w.Turned next events) (id : Nat) :
    next.pool.running.count id + (history ++ events).count (.ended id) =
      (history ++ events).count (.began id) := by
  have before := tracked.finished id
  have moved := turned.running_count id
  rw [List.count_append, List.count_append]
  omega

theorem Tracked.status_turn {next : Workshop} {events : List Event} (tracked : Tracked history w)
    (turned : w.Turned next events) (id : Nat) (job : Job) (known : next.job? id = some job) :
    job.status = standing (history ++ events) id job.mode := by
  have once := tracked.admitted_le_one id
  have begun := tracked.begun_turn turned id
  have finished := tracked.finished_turn turned id
  have silent := turned.admits id
  rw [List.countP_append, silent] at begun
  cases turned with
  | quiet pool turned =>
    rw [List.append_nil]
    exact tracked.status id job known
  | waiting pool n began turned wait =>
    change (w.setStatus n .running).job? id = some job at known
    rw [job?_setStatus] at known
    obtain ⟨old, before, rfl⟩ := Option.map_eq_some_iff.1 known
    by_cases same : n = id
    · subst same
      -- The job is run, so it was admitted once, has begun once, and is not over.
      rw [Pool.running_suspend, List.count_append, List.count_singleton_self] at finished
      rw [if_pos rfl, standing_running (by omega) (by omega)]
    · rw [if_neg same, tracked.status id old before, standing_of_quiet _ (count_ended _ _) silent]
      rw [count_began, count_began_other turned.began_eq same]
  | ending pool n began turned free =>
    change (w.setStatus n (w.outcome n)).job? id = some job at known
    rw [job?_setStatus] at known
    obtain ⟨old, before, rfl⟩ := Option.map_eq_some_iff.1 known
    by_cases same : n = id
    · subst same
      have last : Event.ended n ∈ history ++ ((began.map Event.began).toList ++ [.ended n]) := by
        simp
      rw [if_pos rfl, standing_ended (List.count_pos_iff.2 last), outcome_eq before]
    · rw [if_neg same, tracked.status id old before, standing_of_quiet _ _ silent]
      · rw [List.count_append, count_began, count_began_other turned.began_eq same]
        simp
      · rw [List.count_append, count_ended]
        simp [same]

theorem Tracked.turn {next : Workshop} {events : List Event} (tracked : Tracked history w)
    (turned : w.Turned next events) : Tracked (history ++ events) next := by
  refine ⟨?_, tracked.begun_turn turned, tracked.finished_turn turned, turned.shut tracked.shut,
    tracked.status_turn turned⟩
  intro id
  rw [List.countP_append, turned.answers, turned.length_jobs]
  exact tracked.answered id

theorem Tracked.unknown (tracked : Tracked history w) :
    history.countP (Event.admits w.jobs.length) = 0 ∧
      history.count (.began w.jobs.length) = 0 ∧ history.count (.ended w.jobs.length) = 0 := by
  have less := countP_admits_le history w.jobs.length
  have begun := tracked.begun w.jobs.length
  have finished := tracked.finished w.jobs.length
  rw [tracked.answered, if_neg (Nat.lt_irrefl _)] at less
  omega

theorem mustWait_append {after : Workshop} {job : Job} (jobs : after.jobs = w.jobs ++ [job])
    {id : Nat} (inside : id < w.jobs.length) : after.mustWait id = w.mustWait id := by
  have same : after.job? id = w.job? id := by
    rw [job?, job?, jobs, List.getElem?_append_left inside]
  unfold mustWait
  rw [same]

theorem Offered.jobs {mode : Mode} {answer : Submission} {after : Workshop}
    (offered : w.Offered mode answer after) :
    after.jobs = w.jobs ++ [⟨mode, false,
      if (Event.answered w.jobs.length answer).isAdmission then .waiting else .dropped⟩] := by
  cases offered with
  | refused closed => rfl
  | admitted pool admission submitted => cases admission <;> rfl

theorem Offered.waiting_count {mode : Mode} {answer : Submission} {after : Workshop}
    (offered : w.Offered mode answer after) (id : Nat) :
    after.pool.waiting.count id =
      w.pool.waiting.count id + [Event.answered w.jobs.length answer].countP (Event.admits id) := by
  cases offered with
  | refused closed => rfl
  | admitted pool admission submitted =>
    rw [submitted.waiting_perm.count_eq id]
    cases admission <;>
      simp [List.count_cons, List.countP_cons, Event.admits, Event.isAdmission, Event.answers]

theorem Offered.running_eq {mode : Mode} {answer : Submission} {after : Workshop}
    (offered : w.Offered mode answer after) :
    after.pool.running = w.pool.running ∧ after.pool.suspended = w.pool.suspended := by
  cases offered with
  | refused closed => exact ⟨rfl, rfl⟩
  | admitted pool admission submitted => exact ⟨submitted.running_eq, submitted.kept.2.2.2⟩

theorem Tracked.status_submit {mode : Mode} {answer : Submission} {after : Workshop}
    (tracked : Tracked history w) (offered : w.Offered mode answer after) (id : Nat) (job : Job)
    (known : after.job? id = some job) :
    job.status = standing (history ++ [.answered w.jobs.length answer]) id job.mode := by
  rw [job?, offered.jobs, List.getElem?_append] at known
  split at known
  next inside =>
    have silent : [Event.answered w.jobs.length answer].countP (Event.admits id) = 0 := by
      have other : w.jobs.length ≠ id := by omega
      simp [Event.admits, Event.answers, other]
    rw [standing_of_quiet (by simp) (by simp) silent]
    exact tracked.status id job known
  next outside =>
    have last : id = w.jobs.length := by
      have bound := (List.getElem?_eq_some_iff.1 known).1
      simp only [List.length_singleton] at bound
      omega
    subst last
    obtain ⟨admits, began, ended⟩ := tracked.unknown
    simp only [Nat.sub_self, List.getElem?_cons_zero, Option.some.injEq] at known
    subst known
    by_cases admitted : (Event.answered w.jobs.length answer).isAdmission
    · simp [standing, admits, began, ended, Event.admits, Event.answers, admitted]
    · simp [standing, admits, began, ended, Event.admits, admitted]

theorem Tracked.submit {mode : Mode} {answer : Submission} {after : Workshop}
    (tracked : Tracked history w) (offered : w.Offered mode answer after) :
    Tracked (history ++ [.answered w.jobs.length answer]) after := by
  refine ⟨?_, ?_, ?_, ?_, tracked.status_submit offered⟩
  · intro id
    rw [List.countP_append, tracked.answered, offered.jobs]
    by_cases new : w.jobs.length = id
    · simp [Event.answers, new]
    · have old : id < w.jobs.length + 1 ↔ id < w.jobs.length := by omega
      simp [Event.answers, new, old]
  · intro id
    rw [offered.waiting_count, List.countP_append, ← tracked.begun, List.count_append]
    simp
    omega
  · intro id
    rw [offered.running_eq.1, List.count_append, List.count_append]
    simpa using tracked.finished id
  · intro id held
    rw [offered.running_eq.2] at held
    have wait := tracked.shut id held
    rwa [mustWait_append offered.jobs (lt_of_mustWait wait)]

theorem job?_unlock (w : Workshop) (id n : Nat) :
    (w.unlock id).job? n =
      (w.job? n).map fun job => if id = n then { job with opened := true } else job := by
  simp only [job?, Workshop.unlock, List.getElem?_modify]
  rfl

theorem mustWait_unlock {id n : Nat} (other : id ≠ n) :
    (w.unlock id).mustWait n = w.mustWait n := by
  unfold mustWait
  rw [job?_unlock]
  cases w.job? n with
  | none => rfl
  | some job => simp [other]

theorem Tracked.unlock (tracked : Tracked history w) (id : Nat) :
    Tracked history (w.unlock id) := by
  refine ⟨?_, ?_, ?_, ?_, ?_⟩
  · intro n
    simpa [Workshop.unlock] using tracked.answered n
  · intro n
    rw [Workshop.unlock, Pool.waiting_resume]
    exact tracked.begun n
  · intro n
    have same := (Pool.running_resume w.pool (· == id)).count_eq n
    rw [Workshop.unlock, same]
    exact tracked.finished n
  · intro n held
    simp only [Workshop.unlock, Pool.resume, List.mem_filter, Bool.not_eq_true',
      beq_eq_false_iff_ne] at held
    rw [mustWait_unlock (Ne.symm held.2)]
    exact tracked.shut n held.1
  · intro n job known
    rw [job?_unlock] at known
    obtain ⟨old, before, rfl⟩ := Option.map_eq_some_iff.1 known
    have status := tracked.status n old before
    split <;> exact status

theorem Tracked.of_places (tracked : Tracked history w) (pool : Pool Nat)
    (waiting : pool.waiting = w.pool.waiting) (running : pool.running = w.pool.running)
    (suspended : pool.suspended = w.pool.suspended) (released : Bool) :
    Tracked history ⟨pool, w.jobs, released⟩ := by
  refine ⟨tracked.answered, ?_, ?_, ?_, tracked.status⟩
  · rw [waiting]
    exact tracked.begun
  · rw [running]
    exact tracked.finished
  · rw [suspended]
    exact tracked.shut

theorem Tracked.close (tracked : Tracked history w) (released : Bool) :
    Tracked history ⟨w.pool.close, w.jobs, released⟩ :=
  tracked.of_places _ (Pool.waiting_close _) (Pool.running_close _) (Pool.suspended_wake _) released

theorem Tracked.limited (tracked : Tracked history w) (max : UInt64) :
    Tracked (history ++ [.limited max]) w := by
  refine ⟨?_, ?_, ?_, tracked.shut, ?_⟩
  · intro id
    simpa [Event.answers] using tracked.answered id
  · intro id
    simpa [Event.admits, Event.isAdmission] using tracked.begun id
  · intro id
    simpa using tracked.finished id
  · intro id job known
    rw [standing_of_quiet (by simp) (by simp) rfl]
    exact tracked.status id job known

theorem Reached.tracked {settings : Pool.Settings} (reached : Reached settings history w) :
    Tracked history w := by
  induction reached with
  | new =>
    refine ⟨fun id => rfl, fun id => rfl, fun id => rfl, ?_, ?_⟩
    · intro id held
      cases held
    · intro id job known
      cases known
  | submit mode before submit ih => exact ih.submit (offered_of_submit submit)
  | turn before turn ih => exact ih.turn (turned_of_turn turn)
  | unlock id before shut ih => exact ih.unlock id
  | pass ms before ih =>
    rw [Pool.pass_eq]
    exact ih.of_places _ (by rfl) (by rfl) (by rfl) _
  | setMaxWorkers n before set ih =>
    obtain ⟨_, rfl⟩ := (Pool.setMaxWorkers_eq_ok_iff _ _ n).1 set
    exact (ih.of_places _ (by rfl) (by rfl) (by rfl) _).limited _
  | setKeepAlive ms before ih => exact ih.of_places _ (by rfl) (by rfl) (by rfl) _
  | throughput before ih => exact ih.of_places _ (by rfl) (by rfl) (by rfl) _
  | close before ih => exact ih.close _
  | letGo before ih => exact ih.close _

end StanzaDelivery.Workshop
