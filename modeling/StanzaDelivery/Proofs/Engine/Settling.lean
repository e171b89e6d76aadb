import StanzaDelivery.Proofs.Engine.Course

/-! An engine comes to rest. Every turn lowers the effort that is left in the pool, since a
task pays for the replies that it can send, and replies send none. An engine at rest whose
gate is not shut has nothing left to do. -/

namespace StanzaDelivery.Engine

variable {history : List Event} {e next : Engine} {events : List Event}

theorem weight_eq (job : Job) : weight job = 1 + job.task.escalation.bounces := by
  cases job <;> rfl

theorem length_replies_le (deeds : List Escalation.Deed) :
    (deeds.filterMap replyJob?).length ≤ deeds.countP Escalation.Deed.isSent := by
  rw [List.length_filterMap_eq_countP]
  apply List.countP_mono_left
  intro deed _ found
  obtain ⟨job, reply⟩ := Option.isSome_iff_exists.1 found
  obtain ⟨destination, stanza, rfl, _⟩ := replyJob?_eq_some reply
  rfl

theorem total_weight_replies_le (e : Engine) (job : Job) {replies : List Job}
    (sent : replies.Sublist ((e.deedsFor job).filterMap replyJob?)) :
    Pool.total weight replies ≤ job.task.escalation.bounces := by
  have light : ∀ reply ∈ replies, weight reply = 1 := by
    intro reply member
    obtain ⟨deed, _, found⟩ := List.mem_filterMap.1 (sent.subset member)
    obtain ⟨destination, stanza, _, rfl⟩ := replyJob?_eq_some found
    rfl
  have total : Pool.total weight replies = replies.length := by
    clear sent
    induction replies with
    | nil => rfl
    | cons reply rest ih =>
      obtain ⟨first, others⟩ := List.forall_mem_cons.1 light
      rw [Pool.total_cons, first, ih others, List.length_cons, Nat.add_comm]
  calc
    Pool.total weight replies = replies.length := total
    _ ≤ ((e.deedsFor job).filterMap replyJob?).length := sent.length_le
    _ ≤ (e.deedsFor job).countP Escalation.Deed.isSent := length_replies_le _
    _ ≤ job.task.escalation.bounces := (dealings_fit ..).1

theorem Turned.effort_lt (turned : e.Turned next events) :
    next.pool.effort weight < e.pool.effort weight := by
  cases turned with
  | quiet pool turned => exact turned.effort_lt weight
  | waiting pool job began turned waits =>
    have taken := turned.effort_le weight
    have heavy := weight_eq job
    dsimp only
    rw [Pool.effort_suspend]
    omega
  | ending pool job began turned free =>
    have taken := turned.effort_le weight
    have heavy := weight_eq job
    obtain ⟨replies, sent, intake⟩ := intake_concluded (e.taking pool) job
    have light := total_weight_replies_le (e.taking pool) job sent
    have finished : ((e.taking pool).concluded job).pool.finish.effort weight ≤
        pool.effort weight + 4 * Pool.total weight replies + 3 := intake.effort_finish_le weight
    change ((e.taking pool).concluded job).pool.finish.effort weight < _
    omega

theorem turn_run_eq_none {turns : Nat} (enough : e.pool.effort weight ≤ turns) :
    (run turns e).turn = none := by
  induction turns generalizing e with
  | zero =>
    rw [run]
    cases turn : e.turn with
    | none => rfl
    | some next =>
      have less := (turned_of_turn turn).effort_lt
      omega
  | succ n ih =>
    rw [run]
    cases turn : e.turn with
    | none => exact turn
    | some next =>
      have less := (turned_of_turn turn).effort_lt
      exact ih (by omega)

/-- The pool is in order, and tasks wait at the gate only while it is shut. -/
structure Sound (e : Engine) : Prop where
  balanced : e.pool.Balanced 0
  staffed : e.pool.Staffed
  shut : e.pool.suspended ≠ [] → e.gate = some false

theorem launched_eq {J : Type} {scheduled : Bool} {settings : Pool.Settings} {pool : Pool J}
    (launched : Pool.launch scheduled settings = .launched pool) :
    settings.Usable ∧ pool = .empty settings := by
  rw [← Pool.Settings.check_eq_ok_iff]
  unfold Pool.launch at launched
  cases check : settings.check with
  | error cause => simp [check] at launched
  | ok fine =>
    simp only [check] at launched
    split at launched
    · cases launched
    · split at launched
      · cases launched
        exact ⟨rfl, rfl⟩
      · cases launched

theorem launched_small : Pool.launch true ⟨1, 2, 1, 60000⟩ =
    .launched (.empty ⟨1, 2, 1, 60000⟩ : Pool Job) := rfl

theorem Sound.relayed {after : Engine} {task : Task} {admission : Option Pool.Admission}
    (sound : e.Sound) (relayed : e.Relayed task admission after) : after.Sound := by
  obtain ⟨balanced, staffed, shut⟩ := sound
  cases relayed with
  | refused stopped => exact ⟨balanced, staffed, shut⟩
  | answered admission pool running submitted =>
    refine ⟨balanced.submit submitted, staffed.submit submitted, ?_⟩
    have held := submitted.kept.2.2.2
    dsimp only
    rwa [held]

theorem mustWait_eq_true {targets : List Handover.Target} (wait : e.mustWait targets = true) :
    e.gate = some false := by
  simp only [mustWait, Bool.and_eq_true, decide_eq_true_eq] at wait
  exact wait.1

theorem Sound.turned (sound : e.Sound) (turned : e.Turned next events) : next.Sound := by
  have gate := turned.lasting.gate
  obtain ⟨balanced, staffed, shut⟩ := sound
  cases turned with
  | quiet pool turned =>
    refine ⟨balanced.turned turned, staffed.turned turned, ?_⟩
    have held := turned.kept.2.2.2.2
    dsimp only
    rwa [held]
  | waiting pool job began turned waits =>
    refine ⟨(balanced.turned turned).suspend _, (staffed.turned turned).suspend _, ?_⟩
    intro _
    cases job with
    | held task targets => cases waits
    | fresh task => exact mustWait_eq_true waits
  | ending pool job began turned free =>
    obtain ⟨replies, _, intake⟩ := intake_concluded (e.taking pool) job
    have inHand : (e.taking pool).pool.Balanced 1 := balanced.turned turned
    refine ⟨(intake.balanced inHand).finish, (intake.staffed (staffed.turned turned)).finish, ?_⟩
    rw [gate]
    have held : ((e.taking pool).concluded job).retire.pool.suspended = e.pool.suspended := by
      change ((e.taking pool).concluded job).pool.finish.suspended = e.pool.suspended
      rw [Pool.finish_eq, ← turned.kept.2.2.2.2]
      exact intake.kept.2.1
    rwa [held]

theorem Sound.outside {after : Engine} (sound : e.Sound) (outside : e.Outside after) :
    after.Sound := by
  obtain ⟨balanced, staffed, shut⟩ := sound
  cases outside with
  | furnish site changed => exact ⟨balanced, staffed, shut⟩
  | shut =>
    refine ⟨balanced, staffed, ?_⟩
    intro some
    simp [shut some]
  | unlock =>
    refine ⟨balanced.resume _, staffed.resume _, ?_⟩
    intro some
    simp [Pool.resume] at some
  | takeOutcome handle =>
    unfold Engine.takeOutcome
    split
    · exact ⟨balanced, staffed, shut⟩
    · exact ⟨balanced, staffed, shut⟩
  | pass ms =>
    refine ⟨balanced.pass ms, staffed.pass ms, ?_⟩
    rw [Pool.pass_eq]
    exact shut
  | setMaxWorkers n set =>
    refine ⟨balanced.setMaxWorkers set, staffed.setMaxWorkers set, ?_⟩
    obtain ⟨_, rfl⟩ := (Pool.setMaxWorkers_eq_ok_iff e.pool _ n).1 set
    exact shut
  | setKeepAlive ms => exact ⟨balanced.setKeepAlive ms, staffed.setKeepAlive ms, shut⟩
  | throughput => exact ⟨balanced.takeThroughput, staffed.takeThroughput, shut⟩
  | stop =>
    refine ⟨balanced.close, staffed.close, ?_⟩
    simpa [Engine.stop, Pool.close] using shut

theorem Reached.sound (reached : Reached history e) : e.Sound := by
  induction reached with
  | new router deliverer gate keepsCopies keepsLog site launched built =>
    obtain ⟨usable, rfl⟩ := launched_eq launched
    exact ⟨Pool.balanced_empty _, Pool.staffed_empty _ usable, fun some => absurd rfl some⟩
  | relay address stanza escalation before ih =>
    exact ih.relayed (relayed_relay _ address stanza escalation)
  | turn before turn ih => exact ih.turned (turned_of_turn turn)
  | outside before outside ih => exact ih.outside outside

theorem turn_eq_none_iff (e : Engine) : e.turn = none ↔ e.pool.ready = [] := by
  rw [← Pool.turn_eq_none_iff]
  unfold Engine.turn
  cases e.pool.turn with
  | none => simp
  | some result =>
    obtain ⟨pool, out⟩ := result
    cases out <;> simp

theorem ready_eq_nil_of_still (still : e.turn = none) : e.pool.ready = [] :=
  e.turn_eq_none_iff.1 still

theorem turn_settle (e : Engine) : e.settle.turn = none := by
  have still : e.exhaust.turn = none := turn_run_eq_none (Nat.le_refl _)
  rw [turn_eq_none_iff, settle, Pool.pass_eq]
  exact e.exhaust.turn_eq_none_iff.1 still

theorem Sound.suspended_eq_nil (sound : e.Sound) (loose : e.gate ≠ some false) :
    e.pool.suspended = [] := by
  by_cases free : e.pool.suspended = []
  · exact free
  · exact absurd (sound.shut free) loose

theorem Sound.unfinished_eq_nil (sound : e.Sound) (still : e.turn = none)
    (loose : e.gate ≠ some false) : e.pool.unfinished = [] := by
  have quiet := ready_eq_nil_of_still still
  have nobody := sound.suspended_eq_nil loose
  obtain ⟨⟨_, _, workers, _⟩, staffed, _⟩ := sound
  have firstJobs : e.pool.firstJobs = [] := by simp [Pool.firstJobs, quiet]
  have running : e.pool.running = [] := by
    simp [Pool.running, Pool.resumedJobs, quiet, nobody]
  have queue : e.pool.queue = [] := by
    by_cases empty : e.pool.queue = []
    · exact empty
    · -- The queue is manned, so somebody is idle and has been woken.
      have manned := staffed.manned empty
      rw [workers, firstJobs, running] at manned
      have idle : e.pool.idle ≠ [] := by
        intro none
        simp [none] at manned
      have turn := staffed.alert (.inl empty) idle
      rw [quiet] at turn
      cases turn
  rw [Pool.unfinished, Pool.waiting, queue, firstJobs, running]
  rfl

theorem gate_run (turns : Nat) (e : Engine) : (run turns e).gate = e.gate := by
  induction turns generalizing e with
  | zero => rfl
  | succ n ih =>
    rw [run]
    cases turn : e.turn with
    | none => rfl
    | some next => exact (ih next).trans (turned_of_turn turn).lasting.gate

end StanzaDelivery.Engine
