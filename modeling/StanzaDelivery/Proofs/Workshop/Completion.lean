import StanzaDelivery.Proofs.Pool.Progress
import StanzaDelivery.Proofs.Workshop.Custody
import StanzaDelivery.Proofs.Workshop.Staffing

/-! Settling takes every turn there is. In a closed workshop all of whose gates are open
it therefore brings every job to its end, and the workers leave. -/

namespace StanzaDelivery.Workshop

theorem Turned.effort_lt {w next : Workshop} {events : List Event}
    (turned : w.Turned next events) :
    next.pool.effort (fun _ => 1) < w.pool.effort fun _ => 1 := by
  cases turned with
  | quiet pool turned => exact turned.effort_lt _
  | waiting pool id began turned wait =>
    have less := turned.effort_le fun _ => 1
    rw [Pool.effort_suspend]
    omega
  | ending pool id began turned free =>
    have less := turned.effort_le fun _ => 1
    have more := pool.effort_finish_le fun _ => 1
    dsimp only
    omega

theorem turn_run (turns : Nat) (w : Workshop) (enough : (w.pool.effort fun _ => 1) ≤ turns) :
    (run turns w).turn = none := by
  induction turns generalizing w with
  | zero =>
    rw [run]
    cases next : w.turn with
    | none => rfl
    | some after =>
      have less := (turned_of_turn next).effort_lt
      omega
  | succ n ih =>
    rw [run]
    cases next : w.turn with
    | none => exact next
    | some after =>
      have less := (turned_of_turn next).effort_lt
      exact ih after (by omega)

theorem turn_exhaust (w : Workshop) : w.exhaust.turn = none := turn_run _ w (Nat.le_refl _)

theorem turn_eq_none_iff (w : Workshop) : w.turn = none ↔ w.pool.ready = [] := by
  rw [← Pool.turn_eq_none_iff]
  unfold Workshop.turn
  cases w.pool.turn with
  | none => simp
  | some result =>
    obtain ⟨pool, out⟩ := result
    cases out <;> simp

theorem turn_pass {w : Workshop} (still : w.turn = none) (ms : Nat) :
    { w with pool := w.pool.pass ms }.turn = none := by
  rw [turn_eq_none_iff, Pool.pass_eq]
  exact w.turn_eq_none_iff.1 still

theorem turn_settle (w : Workshop) : w.settle.turn = none := turn_pass w.turn_exhaust 0

theorem mustWait_settle (w : Workshop) (id : Nat) : w.settle.mustWait id = w.mustWait id := by
  have kept : w.exhaust.mustWait id = w.mustWait id := by
    apply run_preserves fun after => after.mustWait id = w.mustWait id
    · intro before after events turned same
      rw [turned.mustWait, same]
    · rfl
  exact kept

def Admitted (history : List Event) (id : Nat) : Prop :=
  .answered id (.admitted .started) ∈ history ∨ .answered id (.admitted .queued) ∈ history

theorem admitted_iff (history : List Event) (id : Nat) :
    Admitted history id ↔ 0 < history.countP (Event.admits id) := by
  rw [List.countP_pos_iff]
  constructor
  · rintro (started | queued)
    · exact ⟨_, started, by simp [Event.admits, Event.isAdmission, Event.answers]⟩
    · exact ⟨_, queued, by simp [Event.admits, Event.isAdmission, Event.answers]⟩
  · rintro ⟨event, member, admits⟩
    obtain ⟨admission, answers⟩ := Bool.and_eq_true_iff.1 admits
    cases event with
    | answered n answer =>
      have same : n = id := by simpa [Event.answers] using answers
      subst same
      cases answer with
      | refused => cases admission
      | admitted kind =>
        cases kind with
        | started => exact .inl member
        | queued => exact .inr member
        | rejected => cases admission
    | _ => cases answers

variable {settings : Pool.Settings} {history : List Event} {w : Workshop}

theorem Tracked.answer_unique (tracked : Tracked history w) {id : Nat} {one other : Submission}
    (first : .answered id one ∈ history) (second : .answered id other ∈ history) :
    one = other := by
  have once := tracked.answered id
  rw [List.countP_eq_length_filter] at once
  have first : .answered id one ∈ history.filter (Event.answers id) :=
    List.mem_filter.2 ⟨first, by simp [Event.answers]⟩
  have second : .answered id other ∈ history.filter (Event.answers id) :=
    List.mem_filter.2 ⟨second, by simp [Event.answers]⟩
  cases found : history.filter (Event.answers id) with
  | nil => simp [found] at first
  | cons event rest =>
    rw [found] at first second once
    have alone : rest = [] := by
      apply List.eq_nil_of_length_eq_zero
      rw [List.length_cons] at once
      split at once <;> omega
    rw [alone, List.mem_singleton] at first second
    cases first.trans second.symm
    rfl

theorem Tracked.not_began (tracked : Tracked history w) {id : Nat} {answer : Submission}
    (answered : .answered id answer ∈ history)
    (turned : answer = .refused ∨ answer = .admitted .rejected) : .began id ∉ history := by
  intro began
  have some := List.count_pos_iff.2 began
  have begun := tracked.begun id
  rcases (admitted_iff history id).2 (by omega) with started | queued
  · have same := tracked.answer_unique started answered
    subst same
    simp at turned
  · have same := tracked.answer_unique queued answered
    subst same
    simp at turned

theorem Tracked.admitted_eq_one (tracked : Tracked history w) {id : Nat}
    (admitted : Admitted history id) : history.countP (Event.admits id) = 1 := by
  have some := (admitted_iff history id).1 admitted
  have once := tracked.admitted_le_one id
  omega

theorem Tracked.job?_of_admitted (tracked : Tracked history w) {id : Nat}
    (admitted : Admitted history id) : ∃ job, w.job? id = some job := by
  have one := tracked.admitted_eq_one admitted
  have less := countP_admits_le history id
  have answered := tracked.answered id
  split at answered
  next inside => exact ⟨_, List.getElem?_eq_getElem inside⟩
  next => omega

theorem Admitted.of_append {later : List Event} {id : Nat} (quiet : submissions later = [])
    (admitted : Admitted (history ++ later) id) : Admitted history id := by
  have silent : ∀ answer, .answered id answer ∉ later := by
    intro answer member
    have shown : answer ∈ submissions later := List.mem_filterMap.2 ⟨_, member, rfl⟩
    rw [quiet] at shown
    cases shown
  rcases admitted with started | queued
  · exact .inl ((List.mem_append.1 started).resolve_right (silent _))
  · exact .inr ((List.mem_append.1 queued).resolve_right (silent _))

theorem Admitted.append {id : Nat} (admitted : Admitted history id) (later : List Event) :
    Admitted (history ++ later) id :=
  admitted.imp (List.mem_append_left later) (List.mem_append_left later)

theorem Tracked.suspended_eq_nil (tracked : Tracked history w)
    (opened : ∀ id, Admitted history id → w.mustWait id = false) : w.pool.suspended = [] := by
  apply List.eq_nil_iff_forall_not_mem.2
  intro id held
  have wait := tracked.shut id held
  have run : 0 < w.pool.running.count id :=
    List.count_pos_iff.2 (List.mem_append_right _ held)
  have begun := tracked.begun id
  have finished := tracked.finished id
  rw [opened id ((admitted_iff history id).2 (by omega))] at wait
  cases wait

/-- No job begins or ends twice, and none begins that was sent away. An admitted job waits,
is run, or is over, in one place at a time. Once the pool is closed and the gates are open,
settling ends every admitted job, each one once, and leaves neither a queue nor a worker. -/
theorem no_job_lost (usable : settings.check = .ok ()) (reached : Reached settings history w) :
    (∀ id, history.count (.ended id) ≤ history.count (.began id) ∧
      history.count (.began id) ≤ 1) ∧
    (∀ id answer, .answered id answer ∈ history →
      answer = .refused ∨ answer = .admitted .rejected → .began id ∉ history) ∧
    (∀ id, Admitted history id →
      w.pool.waiting.count id + w.pool.running.count id + history.count (.ended id) = 1) ∧
    (w.pool.closed = true → (∀ id, Admitted history id → w.mustWait id = false) →
      (w.settle.turn = none ∧ w.settle.pool.queue = [] ∧ w.settle.pool.workers = 0 ∧
        w.settle.pool.busy = 0 ∧ w.settle.pool.queued = 0) ∧
      ∃ later, Reached settings (history ++ later) w.settle ∧
        ∀ id, Admitted history id →
          (history ++ later).count (.began id) = 1 ∧
          (history ++ later).count (.ended id) = 1 ∧
          ∃ job, w.settle.job? id = some job ∧
            job.status = if job.mode = .failing then .failed else .done) := by
  have valid := (Pool.Settings.check_eq_ok_iff settings).1 usable
  have tracked := reached.tracked
  refine ⟨?_, fun id answer => tracked.not_began, ?_, ?_⟩
  · intro id
    have once := tracked.admitted_le_one id
    have begun := tracked.begun id
    have finished := tracked.finished id
    omega
  · intro id admitted
    have one := tracked.admitted_eq_one admitted
    have begun := tracked.begun id
    have finished := tracked.finished id
    omega
  · intro closed opened
    obtain ⟨later, after, quiet⟩ := reached.settle
    have settled := after.tracked
    have still := w.settle.turn_eq_none_iff.1 w.turn_settle
    have free : w.settle.pool.suspended = [] := by
      apply settled.suspended_eq_nil
      intro id admitted
      rw [mustWait_settle]
      exact opened id (admitted.of_append quiet)
    obtain ⟨⟨waiting, running⟩, ended⟩ := Pool.ended_of_still (after.staffed valid)
      after.booked.balanced (w.settle_kept.2.trans closed) still free
    refine ⟨⟨w.turn_settle, ended⟩, later, after, ?_⟩
    intro id admitted
    have known := admitted.append later
    have one := settled.admitted_eq_one known
    have begun := settled.begun id
    have finished := settled.finished id
    rw [waiting, List.count_nil] at begun
    rw [running, List.count_nil] at finished
    obtain ⟨job, found⟩ := settled.job?_of_admitted known
    refine ⟨by omega, by omega, job, found, ?_⟩
    rw [settled.status id job found, standing_ended (by omega)]

theorem no_job_lost_by_closing :
    ∃ history w, Reached ⟨1, 2, 1, 60000⟩ history w ∧ w.pool.queue = [1] ∧
      w.pool.firstJobs = [0, 2] ∧ .began 3 ∉ history ∧ w.settle.pool.workers = 0 ∧
      ∃ later, (history ++ later).count (.ended 1) = 1 ∧
        ∃ job, w.settle.job? 1 = some job ∧ job.status = .failed := by
  -- Two jobs behind gates, one that fails, and one that is sent away: the pool is closed before any
  -- of them has begun, and the gates are opened after that.
  have full : Reached ⟨1, 2, 1, 60000⟩ _ _ :=
    (((Reached.new.submit .gated rfl).submit .failing rfl).submit .gated rfl).submit .instant rfl
  have opened := (full.close.unlock 0 rfl).unlock 2 rfl
  obtain ⟨_, away, _, ending⟩ := no_job_lost rfl opened
  obtain ⟨⟨_, _, workers, _⟩, later, _, jobs⟩ := ending rfl fun id _ =>
    match id with
    | 0 | 1 | 2 | 3 | _ + 4 => rfl
  obtain ⟨_, ended, job, found, status⟩ := jobs 1 (.inr (by decide))
  refine ⟨_, _, opened, rfl, rfl, away 3 _ (by decide) (.inr rfl), workers, later, ended, job,
    found, ?_⟩
  have mode := congrArg (Option.map Job.mode) found
  rw [status, if_pos (Option.some.inj mode).symm]

end StanzaDelivery.Workshop
