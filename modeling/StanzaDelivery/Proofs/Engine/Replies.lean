import StanzaDelivery.Proofs.Engine.Settling

/-! Error replies. Every task comes from the outside, or it is the relaying of a reply that
another task sent; and what sends a reply always comes from the outside, since a reply is
not answered by another one. So replies do not go back and forth, and each request of the
outside causes no more of them than its escalation has bounces. -/

namespace StanzaDelivery.Engine

open scoped List

variable {history later : List Event} {e next : Engine} {events : List Event}

/-- The outside asked for the task, or the escalation of another task did, for a reply. -/
inductive Origin (history : List Event) : Task → Prop
  | outside (task : Task) (admission : Pool.Admission) (admitted : admission ≠ .rejected)
      (asked : .asked task (some admission) ∈ history) : Origin history task
  | reply (cause : Task) (destination : Address) (reply : Stanza)
      (sent : .replied cause destination reply (.ok ()) ∈ history) :
      Origin history (replyTask destination reply)

theorem Origin.append {task : Task} (origin : Origin history task) (later : List Event) :
    Origin (history ++ later) task := by
  cases origin with
  | outside task admission admitted asked =>
    exact .outside task admission admitted (List.mem_append_left _ asked)
  | reply cause destination reply sent =>
    exact .reply cause destination reply (List.mem_append_left _ sent)

def CalledFor (history : List Event) (cause : Task) (destination : Address) (reply : Stanza) :
    Prop :=
  ∃ x report, .executed x ∈ history ∧ x.task = cause ∧ x.resolution = .reported report ∧
    Bounce.reply? cause.stanza report.faults = some (destination, reply)

structure Traced (history : List Event) (e : Engine) : Prop where
  asked : ∀ task admission, .asked task (some admission) ∈ history →
    ∃ handle < e.handles.length, task.handle = some handle
  jobs : ∀ job ∈ e.pool.unfinished, Origin history job.task
  executed : ∀ x, .executed x ∈ history → Origin history x.task
  replied : ∀ cause destination reply answer,
    .replied cause destination reply answer ∈ history → CalledFor history cause destination reply

theorem CalledFor.append {cause : Task} {destination : Address} {reply : Stanza}
    (called : CalledFor history cause destination reply) (later : List Event) :
    CalledFor (history ++ later) cause destination reply := by
  obtain ⟨x, report, executed, task, resolution, call⟩ := called
  exact ⟨x, report, List.mem_append_left _ executed, task, resolution, call⟩

theorem Traced.relayed {after : Engine} {task : Task} {admission : Option Pool.Admission}
    (traced : Traced history e) (handle : task.handle = some e.handles.length)
    (relayed : e.Relayed task admission after) :
    Traced (history ++ [.asked task admission]) after := by
  obtain ⟨asked, jobs, executed, replied⟩ := traced
  refine ⟨?_, ?_, ?_, ?_⟩
  · intro other accepted member
    have more := relayed.length_handles
    rcases List.mem_append.1 member with before | new
    · obtain ⟨known, inside, same⟩ := asked other accepted before
      exact ⟨known, by omega, same⟩
    · cases List.mem_singleton.1 new
      refine ⟨e.handles.length, ?_, handle⟩
      rw [more]
      exact Nat.lt_succ_self _
  · intro job member
    rcases relayed.unfinished_perm with same | ⟨admitted, rfl, accepted, parts⟩
    · exact (jobs job (same.subset member)).append _
    · rcases List.mem_cons.1 (parts.subset member) with rfl | before
      · exact .outside task admitted accepted (List.mem_append_right _ (List.mem_singleton_self _))
      · exact (jobs job before).append _
  · intro x member
    rcases List.mem_append.1 member with before | new
    · exact (executed x before).append _
    · cases List.mem_singleton.1 new
  · intro cause destination reply answer member
    rcases List.mem_append.1 member with before | new
    · exact (replied cause destination reply answer before).append _
    · cases List.mem_singleton.1 new

theorem Traced.turned (traced : Traced history e) (turned : e.Turned next events) :
    Traced (history ++ events) next := by
  obtain ⟨asked, jobs, executed, replied⟩ := traced
  refine ⟨?_, ?_, ?_, ?_⟩
  · intro task admission member
    rw [turned.lasting.handles]
    rcases List.mem_append.1 member with before | new
    · exact asked task admission before
    · cases turned.isAsked_eq_false _ new
  · intro job member
    rcases turned.mem_unfinished member with
      before | ⟨cause, destination, reply, sent, rfl⟩ | ⟨before, there, _, rfl⟩
    · exact (jobs job before).append _
    · exact .reply cause destination reply (List.mem_append_right _ sent)
    · exact (jobs before there).append _
  · intro x member
    rcases List.mem_append.1 member with before | new
    · exact (executed x before).append _
    · obtain ⟨pool, job, there, _, same | ⟨_, _, _, _, same⟩⟩ := turned.mem_events new
      · cases same
        exact (jobs job there).append _
      · cases same
  · intro cause destination reply answer member
    rcases List.mem_append.1 member with before | new
    · exact (replied cause destination reply answer before).append _
    · obtain ⟨pool, job, _, done, same | ⟨_, _, _, sent, same⟩⟩ := turned.mem_events new
      · cases same
      · cases same
        obtain ⟨report, reported, call⟩ := (dealings_fit ..).2 _ sent
        exact ⟨_, report, List.mem_append_right _ done, rfl, reported, call⟩

theorem Reached.traced (reached : Reached history e) : Traced history e := by
  induction reached with
  | new router deliverer gate keepsCopies keepsLog site launched built =>
    obtain ⟨_, rfl⟩ := launched_eq launched
    refine ⟨?_, ?_, ?_, ?_⟩
    · exact fun _ _ member => absurd member List.not_mem_nil
    · exact fun _ member => absurd member List.not_mem_nil
    · exact fun _ member => absurd member List.not_mem_nil
    · exact fun _ _ _ _ member => absurd member List.not_mem_nil
  | relay address stanza escalation before ih =>
    exact ih.relayed rfl (relayed_relay _ address stanza escalation)
  | turn before turn ih => exact ih.turned (turned_of_turn turn)
  | outside before outside ih =>
    obtain ⟨asked, jobs, executed, replied⟩ := ih
    have still := outside.still
    refine ⟨?_, fun job member => jobs job (still.unfinished.subset member), executed, replied⟩
    rw [still.handles]
    exact asked

theorem reply?_eq_some {stanza reply : Stanza} {faults : List Fault} {destination : Address}
    (call : Bounce.reply? stanza faults = some (destination, reply)) :
    stanza.isErrorOrResponse = false ∧ stanza.sender = some destination ∧
      ∃ fault ∈ faults, fault.isStoredOffline = false ∧
        reply = Bounce.reply stanza destination (Bounce.errorOf fault) := by
  unfold Bounce.reply? at call
  split at call
  · cases call
  next wanted =>
    split at call
    next sender fault from_ cause =>
      cases call
      refine ⟨by simpa using wanted, from_, fault, List.mem_of_find?_eq_some cause, ?_, rfl⟩
      simpa using List.find?_some cause
    · cases call

theorem Traced.isErrorOrResponse_of_replied (traced : Traced history e) {cause : Task}
    {destination : Address} {reply : Stanza} {answer : Except Fault Unit}
    (sent : .replied cause destination reply answer ∈ history) :
    reply.isErrorOrResponse = true := by
  obtain ⟨_, _, _, _, _, call⟩ := traced.replied _ _ _ _ sent
  obtain ⟨_, _, fault, _, _, rfl⟩ := reply?_eq_some call
  exact Bounce.isErrorOrResponse_reply ..

theorem Traced.asked_of_replied (traced : Traced history e) {cause : Task}
    {destination : Address} {reply : Stanza} {answer : Except Fault Unit}
    (sent : .replied cause destination reply answer ∈ history) :
    ∃ admission, admission ≠ .rejected ∧ .asked cause (some admission) ∈ history := by
  obtain ⟨x, report, executed, rfl, _, call⟩ := traced.replied _ _ _ _ sent
  have origin := traced.executed x executed
  have question := (reply?_eq_some call).1
  generalize x.task = cause at origin question
  cases origin with
  | outside cause admission admitted asked => exact ⟨admission, admitted, asked⟩
  | reply former sender stanza before =>
    have answer := traced.isErrorOrResponse_of_replied before
    rw [show (replyTask sender stanza).stanza = stanza from rfl, answer] at question
    cases question

def Event.repliesFor (handle : Nat) : Event → Bool
  | .replied cause _ _ _ => cause.handle = some handle
  | _ => false

/-- The replies that a job can still send on behalf of this handle. -/
def owed (handle : Nat) (job : Job) : Nat :=
  if job.task.handle = some handle then job.task.escalation.bounces else 0

/-- What a request has caused and can still cause stays within what it was given. -/
def Budgeted (history : List Event) (e : Engine) : Prop :=
  ∀ task admission handle, .asked task (some admission) ∈ history → task.handle = some handle →
    history.countP (Event.repliesFor handle) + Pool.total (owed handle) e.pool.unfinished ≤
      task.escalation.bounces

theorem total_perm (weight : Job → Nat) {some others : List Job} (same : some.Perm others) :
    Pool.total weight some = Pool.total weight others := by
  induction same with
  | nil => rfl
  | cons job _ ih => rw [Pool.total_cons, Pool.total_cons, ih]
  | swap one other rest =>
    simp only [Pool.total_cons]
    omega
  | trans _ _ first second => exact first.trans second

theorem total_eq_zero {weight : Job → Nat} {jobs : List Job}
    (light : ∀ job ∈ jobs, weight job = 0) : Pool.total weight jobs = 0 := by
  induction jobs with
  | nil => rfl
  | cons job rest ih =>
    obtain ⟨first, others⟩ := List.forall_mem_cons.1 light
    rw [Pool.total_cons, first, ih others]

theorem countP_repliesFor_workEvents (e : Engine) (job : Job) (handle : Nat) :
    (e.workEvents job).countP (Event.repliesFor handle) ≤ owed handle job := by
  rw [workEvents, List.countP_cons_of_neg (by simp [Event.repliesFor]), List.countP_filterMap]
  by_cases own : job.task.handle = some handle
  · rw [owed, if_pos own]
    refine Nat.le_trans (List.countP_mono_left ?_) (dealings_fit ..).1
    intro deed _ found
    unfold replied? at found
    split at found
    · rfl
    · simp at found
  · rw [owed, if_neg own, Nat.le_zero, List.countP_eq_zero]
    intro deed _
    unfold replied?
    split
    · simp [Event.repliesFor, own]
    · simp

theorem Traced.unused (traced : Traced history e) {handle : Nat}
    (unused : e.handles.length ≤ handle) :
    history.countP (Event.repliesFor handle) = 0 ∧
      Pool.total (owed handle) e.pool.unfinished = 0 := by
  have given : ∀ task admission, .asked task (some admission) ∈ history →
      task.handle ≠ some handle := by
    intro task admission asked own
    obtain ⟨known, inside, same⟩ := traced.asked task admission asked
    rw [own] at same
    cases same
    omega
  refine ⟨List.countP_eq_zero.2 ?_, total_eq_zero ?_⟩
  · intro event member counted
    unfold Event.repliesFor at counted
    split at counted
    next cause destination reply answer =>
      obtain ⟨admission, _, asked⟩ := traced.asked_of_replied member
      exact given cause admission asked (by simpa using counted)
    next => cases counted
  · intro job member
    have origin := traced.jobs job member
    rw [owed, if_neg]
    intro own
    generalize job.task = task at origin own
    cases origin with
    | outside task admission admitted asked => exact given task admission asked own
    | reply cause destination reply sent => cases own

theorem Turned.spent_le (turned : e.Turned next events) (handle : Nat) :
    events.countP (Event.repliesFor handle) + Pool.total (owed handle) next.pool.unfinished ≤
      Pool.total (owed handle) e.pool.unfinished := by
  cases turned with
  | quiet pool turned =>
    rw [total_perm _ turned.unfinished_perm]
    simp
  | waiting pool job began turned waits =>
    have parts := total_perm (owed handle)
      (unfinished_waiting turned (.held job.task (e.targetsFor job)))
    have same : owed handle (.held job.task (e.targetsFor job)) = owed handle job := rfl
    rw [Pool.total_cons, Pool.total_cons, same] at parts
    rw [List.countP_nil]
    dsimp only
    omega
  | ending pool job began turned free =>
    obtain ⟨replies, sent, parts⟩ := unfinished_ending turned
    have spent := countP_repliesFor_workEvents (e.taking pool) job handle
    have free : Pool.total (owed handle) replies = 0 := by
      apply total_eq_zero
      intro reply member
      obtain ⟨deed, _, found⟩ := List.mem_filterMap.1 (sent.subset member)
      obtain ⟨destination, stanza, _, rfl⟩ := replyJob?_eq_some found
      rfl
    have same := total_perm (owed handle) parts
    rw [Pool.total_cons, Pool.total_append, free] at same
    omega

theorem Traced.budgeted_relayed {after : Engine} {task : Task}
    {admission : Option Pool.Admission} (traced : Traced history e)
    (budgeted : Budgeted history e) (new : task.handle = some e.handles.length)
    (relayed : e.Relayed task admission after) :
    Budgeted (history ++ [.asked task admission]) after := by
  intro other accepted handle asked own
  rw [List.countP_append, List.countP_singleton]
  simp only [Event.repliesFor, Bool.false_eq_true, if_false, Nat.add_zero]
  -- The pool owes at most what the new task may send, and that only under the new handle.
  have grown : Pool.total (owed handle) after.pool.unfinished ≤
      Pool.total (owed handle) e.pool.unfinished + owed handle (.fresh task) := by
    rcases relayed.unfinished_perm with same | ⟨_, _, _, parts⟩
    · rw [total_perm _ same]
      exact Nat.le_add_right ..
    · rw [total_perm _ parts, Pool.total_cons]
      omega
  rcases List.mem_append.1 asked with before | last
  · obtain ⟨known, inside, same⟩ := traced.asked other accepted before
    have budget := budgeted other accepted handle before own
    have apart : owed handle (.fresh task) = 0 := by
      rw [own] at same
      cases same
      have different : e.handles.length ≠ handle := Nat.ne_of_gt inside
      simp [owed, Job.task, new, different]
    omega
  · cases List.mem_singleton.1 last
    rw [new] at own
    cases own
    have nothing := traced.unused (Nat.le_refl e.handles.length)
    have allowed : owed e.handles.length (.fresh task) = task.escalation.bounces := by
      simp [owed, Job.task, new]
    omega

theorem Reached.budgeted (reached : Reached history e) : Budgeted history e := by
  induction reached with
  | new router deliverer gate keepsCopies keepsLog site launched built =>
    exact fun _ _ _ asked => absurd asked List.not_mem_nil
  | relay address stanza escalation before ih =>
    exact before.traced.budgeted_relayed ih rfl (relayed_relay _ address stanza escalation)
  | @turn history e next before turn ih =>
    have turned := turned_of_turn turn
    intro task admission handle asked own
    rcases List.mem_append.1 asked with before | new
    · have spent := turned.spent_le handle
      have budget := ih task admission handle before own
      rw [List.countP_append]
      omega
    · cases turned.isAsked_eq_false _ new
  | outside before outside ih =>
    intro task admission handle asked own
    rw [total_perm _ outside.still.unfinished]
    exact ih task admission handle asked own

/-- Whatever an engine was asked before, it comes to rest within its effort, by itself, and
with every task over unless the gate is shut. A reply is an error for the sender of a task
that the outside asked for; the relaying of a reply ignores its faults, and causes no reply;
and bouncing a reply would do nothing. No request causes more replies than its escalation
has bounces. -/
theorem comes_to_rest (reached : Reached history e) :
    (∀ turns, e.pool.effort weight ≤ turns →
      (run turns e).turn = none ∧
      (e.gate ≠ some false → (run turns e).pool.unfinished = []) ∧
      ∃ later, Reached (history ++ later) (run turns e) ∧
        ∀ event ∈ later, event.isAsked = false) ∧
    (∀ cause destination reply answer, .replied cause destination reply answer ∈ history →
      (∃ handle admission, cause.handle = some handle ∧ admission ≠ .rejected ∧
        .asked cause (some admission) ∈ history) ∧
      cause.stanza.sender = some destination ∧
      reply.isErrorOrResponse = true ∧
      ∃ fault, reply = Bounce.reply cause.stanza destination (Bounce.errorOf fault)) ∧
    (∀ task, task.handle = none →
      ((∃ x, .executed x ∈ history ∧ x.task = task) ∨
        ∃ job ∈ e.pool.unfinished, job.task = task) →
      task.escalation = .single .ignore ∧
      (∃ cause, .replied cause task.address task.stanza (.ok ()) ∈ history) ∧
      ∀ destination reply answer, .replied task destination reply answer ∉ history) ∧
    (∀ task admission handle, .asked task (some admission) ∈ history →
      task.handle = some handle →
      history.countP (Event.repliesFor handle) ≤ task.escalation.bounces) ∧
    ∀ stanza faults destination reply,
      Bounce.reply? stanza faults = some (destination, reply) →
      ∀ (σ : Type) (f : Escalation.Facilities σ) (others : List Fault) (s : σ),
        Escalation.bounce f reply others s = (.done, s) := by
  have traced := reached.traced
  have caused : ∀ {cause destination reply answer},
      .replied cause destination reply answer ∈ history →
      ∃ handle admission, cause.handle = some handle ∧ admission ≠ .rejected ∧
        .asked cause (some admission) ∈ history := by
    intro cause destination reply answer sent
    obtain ⟨admission, admitted, asked⟩ := traced.asked_of_replied sent
    obtain ⟨handle, _, own⟩ := traced.asked cause admission asked
    exact ⟨handle, admission, own, admitted, asked⟩
  refine ⟨?_, ?_, ?_, ?_, ?_⟩
  · intro turns enough
    obtain ⟨later, after, quiet⟩ := reached.run turns
    have still := turn_run_eq_none enough
    refine ⟨still, ?_, later, after, quiet⟩
    intro loose
    exact after.sound.unfinished_eq_nil still (by rwa [gate_run])
  · intro cause destination reply answer sent
    obtain ⟨_, _, _, _, _, call⟩ := traced.replied _ _ _ _ sent
    obtain ⟨_, sender, fault, _, _, written⟩ := reply?_eq_some call
    exact ⟨caused sent, sender, traced.isErrorOrResponse_of_replied sent, fault, written⟩
  · intro task own known
    have origin : Origin history task := by
      rcases known with ⟨x, executed, rfl⟩ | ⟨job, member, rfl⟩
      · exact traced.executed x executed
      · exact traced.jobs job member
    have silent : ∀ destination reply answer,
        .replied task destination reply answer ∉ history := by
      intro destination reply answer sent
      obtain ⟨handle, _, named, _⟩ := caused sent
      rw [own] at named
      cases named
    cases origin with
    | outside task admission admitted asked =>
      obtain ⟨handle, _, named⟩ := traced.asked task admission asked
      rw [own] at named
      cases named
    | reply cause destination reply sent => exact ⟨rfl, ⟨cause, sent⟩, silent⟩
  · intro task admission handle asked own
    have budget := reached.budgeted task admission handle asked own
    omega
  · intro stanza faults destination reply call σ f others s
    obtain ⟨_, _, fault, _, _, rfl⟩ := reply?_eq_some call
    exact Escalation.bounce_reply f stanza destination _ others s

theorem comes_to_rest_after_bounce :
    ∃ history e task, Reached history e ∧ .asked task (some .started) ∈ history ∧
      history.countP (Event.repliesFor 0) = 1 ∧ task.escalation.bounces = 1 ∧
      e.pool.unfinished.length = 1 ∧ e.settle.turn = none ∧ e.settle.pool.unfinished = [] := by
  -- A message for an unknown account is bounced, once, and then the engine rests.
  let alice : BareAddress := ⟨some "alice", "waddle.social"⟩
  let bob : BareAddress := ⟨some "bob", "waddle.social"⟩
  let stanza : Stanza :=
    .message ⟨.chat, some bob.toAddress, some alice.toAddress, none, none, none⟩
  let router : Router := ⟨⟨"waddle.social", false⟩, false, false⟩
  let site : Site := ⟨.empty, ⟨[], none⟩, .empty 0, .empty 0, false, .empty⟩
  let settings : Pool.Settings := ⟨1, 2, 1, 60000⟩
  let e : Engine := empty router Handover.handoff none false false site (.empty settings)
  let asking : Engine := (e.relay bob.toAddress stanza (.single .bounce)).2
  have launched : Pool.launch true settings = .launched (.empty settings : Pool Job) := rfl
  have new : Reached [] e := .new router _ none false false site launched .empty
  have busy : asking.turn.isSome = true := by decide +kernel
  have bounced := (new.relay bob.toAddress stanza (.single .bounce)).turn (turn_eq_run_one busy)
  obtain ⟨rest, _, _, few, _⟩ := comes_to_rest bounced
  obtain ⟨_, finished, _⟩ := rest _ (Nat.le_refl _)
  have asked : Event.asked ⟨bob.toAddress, stanza, .single .bounce, some 0⟩ (some .started) ∈ _ :=
    List.mem_append_left asking.turnEvents (List.mem_singleton_self _)
  refine ⟨_, _, _, bounced, asked, ?_, rfl, ?_, turn_settle _, ?_⟩
  · refine Nat.le_antisymm (few _ _ 0 asked rfl) ?_
    decide +kernel
  · decide +kernel
  · decide +kernel

end StanzaDelivery.Engine
