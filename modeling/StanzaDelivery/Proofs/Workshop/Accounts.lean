import StanzaDelivery.Proofs.Pool.Balance
import StanzaDelivery.Proofs.Workshop.Course

/-! The books of a pool at work: its counters against its queue and its crew, and the
answers that it gave against what became of the jobs. -/

namespace StanzaDelivery.Workshop

def Event.isAdmission : Event → Bool
  | .answered _ (.admitted .started) => true
  | .answered _ (.admitted .queued) => true
  | _ => false

def Event.isRejection : Event → Bool
  | .answered _ (.admitted .rejected) => true
  | _ => false

structure Booked (settings : Pool.Settings) (history : List Event) (w : Workshop) : Prop where
  balanced : w.pool.Balanced 0
  capacity : w.pool.settings.queueCapacity = settings.queueCapacity
  admitted : history.countP Event.isAdmission = w.pool.accounted
  rejected : history.countP Event.isRejection = w.pool.rejected

variable {settings : Pool.Settings} {history : List Event} {w : Workshop}

theorem Booked.submit {mode : Mode} {answer : Submission} {after : Workshop}
    (booked : Booked settings history w) (offered : w.Offered mode answer after) :
    Booked settings (history ++ [.answered w.jobs.length answer]) after := by
  obtain ⟨balanced, capacity, admitted, rejected⟩ := booked
  cases offered with
  | refused closed =>
    refine ⟨balanced, capacity, ?_, ?_⟩
    · simpa [Event.isAdmission] using admitted
    · simpa [Event.isRejection] using rejected
  | admitted pool admission submitted =>
    have accounted := Pool.accounted_submit submitted
    refine ⟨balanced.submit submitted, ?_, ?_, ?_⟩
    · rw [← capacity, ← submitted.kept.1]
    · rw [List.countP_append, admitted, accounted]
      cases admission <;> rfl
    · rw [List.countP_append, rejected, submitted.rejected_eq]
      cases admission <;> rfl

theorem Booked.turn {next : Workshop} {events : List Event} (booked : Booked settings history w)
    (turned : w.Turned next events) : Booked settings (history ++ events) next := by
  obtain ⟨balanced, capacity, admitted, rejected⟩ := booked
  have noAdmission : events.countP Event.isAdmission = 0 :=
    List.countP_eq_zero.2 (turned.forall_events (fun _ => nofun) fun _ => nofun)
  have noRejection : events.countP Event.isRejection = 0 :=
    List.countP_eq_zero.2 (turned.forall_events (fun _ => nofun) fun _ => nofun)
  rw [← Nat.add_zero (List.countP _ _), ← noAdmission, ← List.countP_append] at admitted
  rw [← Nat.add_zero (List.countP _ _), ← noRejection, ← List.countP_append] at rejected
  cases turned with
  | quiet pool turned =>
    have kept := turned.kept
    exact ⟨balanced.turned turned, by rw [kept.1, capacity],
      admitted.trans (Pool.accounted_turned turned).symm, by rw [rejected, kept.2.2.2.1]⟩
  | waiting pool id began turned wait =>
    have kept := turned.kept
    refine ⟨(balanced.turned turned).suspend id, ?_, ?_, rejected.trans kept.2.2.2.1.symm⟩
    · rw [← capacity, ← kept.1]
      rfl
    · rw [admitted, Pool.accounted_suspend]
      exact (Pool.accounted_turned turned).symm
  | ending pool id began turned free =>
    have kept := turned.kept
    refine ⟨(balanced.turned turned).finish, ?_, ?_, ?_⟩
    · rw [Pool.finish_eq, kept.1, capacity]
    · rw [admitted, Pool.accounted_finish]
      exact (Pool.accounted_turned turned).symm
    · rw [Pool.finish_eq, rejected, kept.2.2.2.1]

theorem Booked.close (booked : Booked settings history w) : Booked settings history w.close := by
  refine ⟨booked.balanced.close, ?_, ?_, ?_⟩
  · simpa [Workshop.close, Pool.close] using booked.capacity
  · rw [Workshop.close, Pool.accounted_close]
    exact booked.admitted
  · simpa [Workshop.close, Pool.close] using booked.rejected

theorem Reached.booked (reached : Reached settings history w) : Booked settings history w := by
  induction reached with
  | new => exact ⟨Pool.balanced_empty settings, rfl, rfl, rfl⟩
  | submit mode before submit ih => exact ih.submit (offered_of_submit submit)
  | turn before turn ih => exact ih.turn (turned_of_turn turn)
  | unlock id before shut ih =>
    refine ⟨ih.balanced.resume _, ih.capacity, ?_, ih.rejected⟩
    rw [Workshop.unlock, Pool.accounted_resume]
    exact ih.admitted
  | pass ms before ih =>
    refine ⟨ih.balanced.pass ms, ?_, ?_, ?_⟩
    · rw [Pool.pass_eq]
      exact ih.capacity
    · rw [Pool.accounted_pass]
      exact ih.admitted
    · rw [Pool.pass_eq]
      exact ih.rejected
  | setMaxWorkers n before set ih =>
    have balanced := ih.balanced.setMaxWorkers set
    obtain ⟨_, rfl⟩ := (Pool.setMaxWorkers_eq_ok_iff _ _ n).1 set
    refine ⟨balanced, ih.capacity, ?_, ?_⟩
    · rw [List.countP_append, ih.admitted]
      rfl
    · rw [List.countP_append, ih.rejected]
      rfl
  | setKeepAlive ms before ih =>
    exact ⟨ih.balanced.setKeepAlive ms, ih.capacity, ih.admitted, ih.rejected⟩
  | throughput before ih =>
    exact ⟨ih.balanced.takeThroughput, ih.capacity, ih.admitted, ih.rejected⟩
  | close before ih => exact ih.close
  | letGo before ih =>
    obtain ⟨balanced, capacity, admitted, rejected⟩ := ih.close
    exact ⟨balanced, capacity, admitted, rejected⟩

/-- In every state that is reached, whatever was asked of the pool in whatever order, each
counter is the number of things it counts, none of them has gone below zero, and every
answer is accounted for. In the middle of a turn the worker at work is one more. -/
theorem books_balance (reached : Reached settings history w) :
    (w.pool.queued = w.pool.queue.length ∧
      w.pool.queue.length ≤ settings.queueCapacity.toNat) ∧
    (w.pool.busy = w.pool.crew.countP Pool.Worker.isRunning ∧ w.pool.busy ≤ w.pool.workers) ∧
    w.pool.workers = w.pool.crew.length ∧
    (0 ≤ w.pool.queued ∧ 0 ≤ w.pool.busy ∧ 0 ≤ w.pool.workers) ∧
    history.countP Event.isAdmission =
      w.pool.completed + w.pool.busy + w.pool.queued +
        w.pool.crew.countP Pool.Worker.isStarting ∧
    history.countP Event.isRejection = w.pool.rejected ∧
    ∀ pool id, w.pool.turn = some (pool, some id) →
      pool.queued = pool.queue.length ∧
      pool.busy = pool.crew.countP Pool.Worker.isRunning + 1 ∧
      pool.workers = pool.crew.length + 1 := by
  have midway : ∀ pool id, w.pool.turn = some (pool, some id) →
      pool.queued = pool.queue.length ∧
      pool.busy = pool.crew.countP Pool.Worker.isRunning + 1 ∧
      pool.workers = pool.crew.length + 1 := by
    intro pool id turn
    obtain ⟨queued, busy, workers, _⟩ :=
      reached.booked.balanced.turned (Pool.turned_of_turn turn)
    rw [Pool.countP_isRunning_crew, Pool.length_crew]
    simp only [Option.toList_some, List.length_singleton] at busy workers
    refine ⟨queued, ?_, ?_⟩ <;> omega
  obtain ⟨⟨queued, busy, workers, room⟩, capacity, admitted, rejected⟩ := reached.booked
  rw [capacity] at room
  rw [Pool.accounted, Pool.length_waiting] at admitted
  rw [Pool.countP_isRunning_crew, Pool.countP_isStarting_crew, Pool.length_crew]
  refine ⟨⟨queued, room⟩, ⟨?_, ?_⟩, ?_, ⟨?_, ?_, ?_⟩, ?_, rejected, midway⟩ <;> omega

theorem books_balance_when_full :
    ∃ history w, Reached ⟨1, 2, 1, 60000⟩ history w ∧ w.pool.busy = 2 ∧ w.pool.queued = 1 ∧
      history.countP Event.isAdmission = 3 ∧ history.countP Event.isRejection = 1 := by
  -- Four jobs that wait for their gates fill a pool of one worker, one place in the queue and one
  -- extra worker, and the last of them is sent away.
  obtain ⟨history, reached, _⟩ := Reached.new.takeAll
    [.submit .gated, .submit .gated, .submit .gated, .submit .gated, .settle]
  obtain ⟨_, _, _, _, admitted, rejected, _⟩ := books_balance reached
  refine ⟨_, _, reached, by decide, by decide, ?_, ?_⟩
  · exact Int.ofNat.inj (admitted.trans (by decide))
  · rw [rejected]
    decide

end StanzaDelivery.Workshop
