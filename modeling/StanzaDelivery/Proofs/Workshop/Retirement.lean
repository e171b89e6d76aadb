import StanzaDelivery.Proofs.Pool.Intake
import StanzaDelivery.Proofs.Workshop.Rest

/-! The retirement of idle workers. When time goes by in a pool at rest, as many of those whose
time is up leave as the pool has workers above its core size, and nobody else does. -/

namespace StanzaDelivery.Workshop

open Pool (Rest)

variable {settings : Pool.Settings} {history : List Event} {w : Workshop} {rests : List Rest}

theorem settle_clock (w : Workshop) : w.settle.pool.clock = w.pool.clock := by
  have kept : w.exhaust.pool.clock = w.pool.clock := by
    apply run_preserves fun after => after.pool.clock = w.pool.clock
    · intro before after events turned same
      exact turned.clock.trans same
    · rfl
  rw [settle, Pool.pass_eq]
  exact kept

theorem exhaust_of_still (still : w.turn = none) : w.exhaust = w := by
  unfold exhaust
  cases w.pool.effort fun _ => 1 with
  | zero => rfl
  | succ turns => rw [run, still]

theorem settle_of_still (still : w.turn = none) :
    w.settle = { w with pool := w.pool.pass 0 } := by
  rw [settle, exhaust_of_still still]

theorem settle_pass (still : w.turn = none) (ms : Nat) :
    { w with pool := w.pool.pass ms }.settle = { w with pool := w.pool.pass ms } := by
  rw [settle_of_still (turn_pass still ms)]
  dsimp only
  rw [Pool.pass_pass_zero]

theorem pass_of_still (still : w.turn = none) (punctual : w.pool.Punctual) (ms : Nat) :
    w.pass ms = { w with pool := w.pool.pass ms } := by
  rw [Workshop.pass, settle_of_still still]
  dsimp only
  rw [punctual.pass_pass, settle_pass still]

theorem punctual_settle (w : Workshop) : w.settle.pool.Punctual := w.exhaust.pool.punctual_pass 0

theorem pass_eq (w : Workshop) (ms : Nat) :
    w.pass ms = { w.settle with pool := w.settle.pool.pass ms } := settle_pass w.turn_settle ms

theorem pass_settle (w : Workshop) (ms : Nat) : w.settle.pass ms = w.pass ms := by
  rw [pass_of_still w.turn_settle w.punctual_settle, pass_eq]

theorem Tracked.unfinished_or_ended {later : List Event} {after : Workshop}
    (before : Tracked history w) (tracked : Tracked (history ++ later) after) {id : Nat}
    (left : id ∈ w.pool.unfinished) : id ∈ after.pool.unfinished ∨ .ended id ∈ later := by
  have somewhere := List.count_pos_iff.2 left
  rw [Pool.unfinished, List.count_append] at somewhere
  have once := before.admitted_le_one id
  have begun := before.begun id
  have finished := before.finished id
  have begunAfter := tracked.begun id
  have finishedAfter := tracked.finished id
  simp only [List.count_append, List.countP_append] at begunAfter finishedAfter
  by_cases ended : .ended id ∈ later
  · exact .inr ended
  · have none := List.count_eq_zero_of_not_mem ended
    refine .inl (List.count_pos_iff.1 ?_)
    rw [Pool.unfinished, List.count_append]
    omega

/-- What becomes of a workshop at rest, with these rests of its idle workers, when it gets as late
as this: of the workers whose time is up as many leave as are above the core size, or all; those
that may not leave wait anew; everybody else stays, and every job is where it was. -/
structure Retired (before : Workshop) (rests : List Rest) (now : Nat) (after : Workshop) :
    Prop where
  workers : after.pool.stats.workers = before.pool.stats.workers -
    min (rests.countP (·.isUp now))
      (before.pool.stats.workers - before.pool.settings.core.toNat)
  crew : ∃ anew, after.pool.crew = before.pool.running.map .running ++
    (rests.filter (!·.isUp now)).map Rest.worker ++
    List.replicate anew (.idle (now + before.pool.settings.keepAliveMs))
  counted : after.pool.stats.workers = after.pool.crew.length
  queue : after.pool.queue = before.pool.queue
  running : after.pool.running = before.pool.running
  jobs : after.jobs = before.jobs
  idle : before.pool.unfinished = [] → (∀ rest ∈ rests, rest.isUp now = true) →
    after.pool.stats.workers =
      min before.pool.stats.workers before.pool.settings.core.toNat

theorem workers_pass (w : Workshop) (running : w.pool.closed = false) (ms : Nat) :
    (w.pass ms).pool.stats.workers = w.pool.stats.workers -
      min (w.exhaust.pool.expiring ms)
        (w.pool.stats.workers - w.pool.settings.core.toNat) := by
  have left : (w.pass ms).pool.workers = (w.exhaust.pool.pass ms).workers := by
    rw [pass_eq]
    exact w.exhaust.pool.workers_pass_pass ms
  rw [← w.workers_exhaust_pass running, Pool.stats, Pool.stats, left]

section
variable (still : w.turn = none) (line : w.pool.idle = rests.map Rest.deadline)
include still line

theorem crew_of_line :
    w.pool.crew = w.pool.running.map .running ++ rests.map Rest.worker := by
  have ready := w.turn_eq_none_iff.1 still
  have running : w.pool.running = w.pool.suspended := by
    simp [Pool.running, Pool.resumedJobs, ready]
  rw [Pool.crew_of_still ready, running, line, List.map_map]
  rfl

theorem retired_pass (punctual : w.pool.Punctual) (balanced : w.pool.Balanced 0) (ms : Nat) :
    Retired w rests (w.pool.clock + ms) (w.pass ms) := by
  have up : w.pool.expiring ms = rests.countP (·.isUp (w.pool.clock + ms)) := by
    rw [Pool.expiring, line, ← List.countP_eq_length_filter, List.countP_map]
    rfl
  rw [pass_of_still still punctual]
  have workers : (w.pool.pass ms).stats.workers = w.pool.stats.workers -
      min (rests.countP (·.isUp (w.pool.clock + ms)))
        (w.pool.stats.workers - w.pool.settings.core.toNat) := by
    rw [← up, Pool.pass_eq]
    simp only [Pool.stats, Pool.leaving]
    omega
  have later := crew_of_line (turn_pass still ms) (Pool.idle_pass line ms)
  refine ⟨workers, ⟨w.pool.expiring ms - w.pool.leaving (w.pool.expiring ms), later.trans ?_⟩,
    (balanced.pass ms).workers_stats, ?_, ?_, rfl, ?_⟩
  · rw [Pool.pass_eq, List.map_append, List.map_replicate, List.append_assoc]
    rfl
  · rw [Pool.pass_eq]
  · rw [Pool.pass_eq]
    rfl
  · intro finished allUp
    have nobody : w.pool.running = [] := (List.append_eq_nil_iff.1 finished).2
    have everybody := balanced.workers_stats
    rw [crew_of_line still line, nobody, List.map_nil, List.nil_append, List.length_map]
      at everybody
    have all : rests.countP (·.isUp (w.pool.clock + ms)) = rests.length :=
      List.countP_eq_length.2 allUp
    rw [workers, all, everybody]
    omega

end

/-- While a pool runs, of the workers that are idle when all is done that can be done, and whose
time is up when this much time has gone by, exactly those leave that are too many, until the core
size is reached. No other worker leaves, and no job is lost. The sizes that count are those in
force, also if they have been set after the workers began to wait. Nobody leaves before the time
goes by, if the keep-alive is positive and nobody's time was up. -/
theorem surplus_retires (reached : Reached settings history w)
    (running : w.pool.closed = false) (ms : Nat) :
    ∃ later rests, Resting settings (history ++ later) w.settle rests ∧
      w.settle.pool.crew = w.settle.pool.running.map .running ++ rests.map Rest.worker ∧
      ((0 < w.pool.settings.keepAliveMs → w.pool.Waits →
          w.settle.pool.stats.workers = w.pool.stats.workers) ∧
        w.pool.stats.workers = w.pool.crew.length ∧
        w.settle.pool.settings = w.pool.settings) ∧
      (w.pass ms).pool.stats.workers = w.pool.stats.workers -
        min (w.exhaust.pool.expiring ms)
          (w.pool.stats.workers - w.pool.settings.core.toNat) ∧
      (∀ id ∈ w.pool.unfinished, id ∈ (w.pass ms).pool.unfinished ∨ .ended id ∈ later) ∧
      Retired w.settle rests (w.pool.clock + ms) (w.pass ms) ∧
      ∀ n pool, w.settle.pool.setMaxWorkers n = .ok pool →
        pool.settings.core = n ∧
        Retired { w.settle with pool := pool } rests (w.pool.clock + ms)
          ({ w.settle with pool := pool }.pass ms) := by
  obtain ⟨later, settled, _⟩ := reached.settle
  obtain ⟨rests, resting⟩ := settled.resting
  have still := w.turn_settle
  have line := resting.idle_eq
  have balanced := settled.booked.balanced
  have retired := retired_pass still line w.punctual_settle balanced ms
  rw [settle_clock, pass_settle] at retired
  refine ⟨later, rests, resting, crew_of_line still line, ⟨?_, ?_, w.settle_kept.1⟩,
    w.workers_pass running ms, ?_, retired, ?_⟩
  · intro positive waits
    exact workers_settle_of_waits positive waits running
  · exact reached.booked.balanced.workers_stats
  · intro id left
    have kept : (w.pass ms).pool.unfinished = w.settle.pool.unfinished := by
      rw [pass_eq]
      exact w.settle.pool.unfinished_pass ms
    rw [kept]
    exact reached.tracked.unfinished_or_ended settled.tracked left
  · intro n pool set
    have smaller := balanced.setMaxWorkers set
    obtain ⟨_, rfl⟩ := (Pool.setMaxWorkers_eq_ok_iff _ _ n).1 set
    have resized : { w.settle with pool := { w.settle.pool with
        settings := w.settle.pool.settings.withMaxWorkers n } }.turn = none :=
      (turn_eq_none_iff _).2 (w.settle.turn_eq_none_iff.1 still)
    rw [← settle_clock w]
    exact ⟨rfl, retired_pass resized line w.punctual_settle smaller ms⟩

theorem surplus_retires_beside_a_busy_worker :
    ∃ history w rests, Reached ⟨3, 6, 8, 60000⟩ history w ∧ w.pool.closed = false ∧
      Retired w.settle rests 60000 (w.pass 60000) ∧
      w.settle.pool.crew = [.running 0, .idle 60000, .idle 60000] ∧
      (w.pass 60000).pool.crew = [.running 0, .idle 120000] ∧
      (w.pass 60000).pool.stats.workers = 2 := by
  -- A pool of three workers has been told to keep two. One of the workers is held up; the time of
  -- the two others is up, of whom one leaves and one waits anew.
  have full : Reached ⟨3, 6, 8, 60000⟩ _ _ :=
    ((Reached.new.submit .gated rfl).submit .instant rfl).submit .failing rfl
  have shrunk := full.setMaxWorkers 2 rfl
  obtain ⟨later, rests, _, _, _, _, _, retired, _⟩ := surplus_retires shrunk rfl 60000
  exact ⟨_, _, rests, shrunk, rfl, retired, by decide, by decide, retired.counted.trans (by decide)⟩

end StanzaDelivery.Workshop
