import StanzaDelivery.Proofs.Engine.Settling

/-! The offers that an engine makes to its pool. A request of the outside is one offer, and so
is every reply that an escalation relays; the escalation only gets to know whether the reply
was taken on, so the answers of the pool are written down beside it. A path of an engine is cut
into stages, one for each move: the engine before it, what happened in it, and what was offered. -/

namespace StanzaDelivery

def Resolution.faults : Resolution → List Fault
  | .reported report => report.faults
  | .discarded => []
  | .crashed => []

namespace Engine

open scoped List

variable {e next last : Engine} {events : List Event}

/-- A task that the pool was asked to take on. An engine that has stopped gives no answer. -/
structure Offer where
  task : Task
  answer : Option Pool.Admission

namespace Offer

def result (offer : Offer) : Except Fault Unit :=
  match offer.answer with
  | none => .error stopped
  | some _ => .ok ()

def replied (cause : Task) (offer : Offer) : Event :=
  .replied cause offer.task.address offer.task.stanza offer.result

def admitted? (offer : Offer) : Option Task :=
  match offer.answer with
  | some .rejected => none
  | some _ => some offer.task
  | none => none

theorem admitted?_of_answer {offer : Offer} {admission : Pool.Admission}
    (answer : offer.answer = some admission) (taken : admission ≠ .rejected) :
    offer.admitted? = some offer.task := by
  rw [admitted?, answer]
  cases admission with
  | rejected => exact absurd rfl taken
  | started => rfl
  | queued => rfl

end Offer

def offering (e : Engine) (task : Task) : Offer := ⟨task, (e.offer task).1⟩

theorem isSome_offer (runs : e.running = true) (opened : e.pool.closed = false) (task : Task) :
    (e.offer task).1.isSome = true := by
  have offered := e.offered_offer task
  generalize (e.offer task).1 = answer at offered ⊢
  generalize (e.offer task).2 = after at offered
  cases offered with
  | refused stopped => simp [runs, opened] at stopped
  | answered => rfl

/-- The facilities of an engine, with the offers that they make. -/
def watched : Escalation.Facilities (Engine × List Offer) where
  send destination reply s :=
    let (answer, after) := sendReply destination reply s.1
    (answer, after, s.2 ++ [s.1.offering (replyTask destination reply)])
  keep stanza s :=
    let (answer, after) := keepPending stanza s.1
    (answer, after, s.2)
  note stanza faults s := (facilities.note stanza faults s.1, s.2)

theorem watched_agree : watched.Agree facilities fun watching e => watching.1 = e := by
  refine ⟨?_, ?_, ?_⟩
  · rintro destination reply watching e rfl
    exact ⟨rfl, rfl⟩
  · rintro stanza watching e rfl
    exact ⟨rfl, rfl⟩
  · rintro stanza faults watching e rfl
    rfl

theorem recorded_agree (cause : Task) :
    facilities.recorded.Agree watched fun recording watching =>
      recording.1 = watching.1 ∧
        recording.2.filterMap (replied? cause) = watching.2.map (Offer.replied cause) := by
  refine ⟨?_, ?_, ?_⟩
  · rintro destination reply ⟨e, deeds⟩ ⟨_, offers⟩ ⟨rfl, same⟩
    refine ⟨rfl, rfl, ?_⟩
    have answer : (e.offering (replyTask destination reply)).replied cause =
        .replied cause destination reply (sendReply destination reply e).1 := by
      rw [sendReply_eq]
      rfl
    simp only [Escalation.Facilities.recorded, watched, List.filterMap_append, List.map_append,
      List.map_singleton, answer]
    rw [same]
    rfl
  · rintro stanza ⟨e, deeds⟩ ⟨_, offers⟩ ⟨rfl, same⟩
    exact ⟨rfl, rfl, List.filterMap_append.trans ((List.append_nil _).trans same)⟩
  · rintro stanza faults ⟨e, deeds⟩ ⟨_, offers⟩ ⟨rfl, same⟩
    exact ⟨rfl, List.filterMap_append.trans ((List.append_nil _).trans same)⟩

def facing (task : Task) (resolution : Resolution) (e : Engine) : Engine :=
  match resolution with
  | .reported report => if report.hasFaults then faced task report e else e
  | .discarded => e
  | .crashed => e

theorem facing_kept (task : Task) (resolution : Resolution) (e : Engine) :
    e.Kept (facing task resolution e) ∧ (facing task resolution e).pool = e.pool := by
  cases resolution with
  | discarded => exact ⟨.refl e, rfl⟩
  | crashed => exact ⟨.refl e, rfl⟩
  | reported report =>
    rw [facing]
    split
    · exact kept_faced task report e
    · exact ⟨.refl e, rfl⟩

def offersIn (task : Task) (resolution : Resolution) (e : Engine) : List Offer :=
  match resolution with
  | .reported report =>
    if report.hasFaults then
      (task.escalation.tryAll watched task.stanza report.faults (faced task report e, [])).2.2
    else []
  | .discarded => []
  | .crashed => []

/-- To show something of the offers that are made and of the engine that made them, show that
every call keeps it. -/
theorem offersIn_hold {task : Task} (Holds : Engine → List Offer → Prop)
    (send : ∀ destination reply e offers, Holds e offers →
      Holds (sendReply destination reply e).2
        (offers ++ [e.offering (replyTask destination reply)]))
    (keep : ∀ e offers, Holds e offers → Holds (keepPending task.stanza e).2 offers)
    (note : ∀ e offers faults, Holds e offers →
      Holds (facilities.note task.stanza faults e) offers)
    (resolution : Resolution) (e : Engine) (start : Holds (facing task resolution e) []) :
    Holds (dealt task resolution e) (offersIn task resolution e) := by
  cases resolution with
  | discarded => exact start
  | crashed => exact start
  | reported report =>
    rw [dealt, offersIn, dealWith_eq]
    rw [facing] at start
    split
    next faulty =>
      rw [if_pos faulty] at start
      have same := (Escalation.tryAll_agree task.stanza report.faults watched_agree
        (s := (faced task report e, [])) rfl task.escalation).2
      dsimp only
      rw [← same]
      exact @Escalation.tryAll_preserves _ watched task.stanza report.faults
        (fun watching => Holds watching.1 watching.2)
        (fun destination reply _ watching => send destination reply watching.1 watching.2)
        (fun watching => keep watching.1 watching.2)
        (fun watching => note watching.1 watching.2 report.faults) task.escalation _ start
    next clean =>
      rw [if_neg clean] at start
      exact start

theorem replied_dealings (cause task : Task) (resolution : Resolution) (e : Engine) :
    (dealings task resolution e).filterMap (replied? cause) =
      (offersIn task resolution e).map (Offer.replied cause) := by
  cases resolution with
  | discarded => rfl
  | crashed => rfl
  | reported report =>
    rw [dealings, offersIn]
    split
    · exact (Escalation.tryAll_agree task.stanza report.faults (recorded_agree cause)
        (s := (faced task report e, [])) (t := (faced task report e, [])) ⟨rfl, rfl⟩
        task.escalation).2.2
    · rfl

def offersFor (e : Engine) (job : Job) : List Offer :=
  offersIn job.task (e.routed job).1 { e with site := (e.routed job).2 }

theorem workEvents_eq (e : Engine) (job : Job) :
    e.workEvents job =
      .executed (e.execution job) :: (e.offersFor job).map (Offer.replied job.task) := by
  rw [workEvents, deedsFor, replied_dealings]
  rfl

theorem Offered.intake {pool : Pool Job} {jobs : List Job} {after : Engine} {task : Task}
    {answer : Option Pool.Admission} (offered : e.Offered task answer after)
    (intake : pool.Intake jobs e.pool) :
    pool.Intake (jobs ++ ((Offer.admitted? ⟨task, answer⟩).map Job.fresh).toList) after.pool := by
  cases offered with
  | refused stopped =>
    rw [show (Offer.admitted? ⟨task, none⟩) = none from rfl]
    simpa using intake
  | answered admission pool running submitted =>
    have more := intake.submit submitted
    cases admission with
    | rejected => simpa [Offer.admitted?] using more
    | started => exact more
    | queued => exact more

theorem intake_dealt_offers (task : Task) (resolution : Resolution) (e : Engine) :
    e.pool.Intake (((offersIn task resolution e).filterMap Offer.admitted?).map Job.fresh)
      (dealt task resolution e).pool := by
  refine offersIn_hold
    (fun f offers => e.pool.Intake ((offers.filterMap Offer.admitted?).map Job.fresh) f.pool)
    ?_ ?_ ?_ resolution e ?_
  · intro destination reply f offers intake
    rw [sendReply_eq, List.filterMap_append, List.map_append]
    have more := (f.offered_offer (replyTask destination reply)).intake intake
    rw [offering]
    generalize (f.offer (replyTask destination reply)).1 = answer at more ⊢
    cases taken : Offer.admitted? ⟨replyTask destination reply, answer⟩ <;>
      simpa [taken] using more
  · exact fun _ _ intake => intake
  · exact fun _ _ _ intake => intake
  · rw [(facing_kept task resolution e).2]
    exact .none

theorem intake_concluded_offers (e : Engine) (job : Job) :
    e.pool.Intake (((e.offersFor job).filterMap Offer.admitted?).map Job.fresh)
      (e.concluded job).pool := by
  obtain ⟨metrics, same⟩ :=
    conclude_eq job.task (e.routed job).1 { e with site := (e.routed job).2 }
  rw [concluded, same]
  exact intake_dealt_offers job.task (e.routed job).1 { e with site := (e.routed job).2 }

def turnOffers (e : Engine) : List Offer :=
  match e.pool.turn with
  | some (pool, some job) => if e.waits job then [] else (e.taking pool).offersFor job
  | _ => []

/-- A move with all that there is to see of it. -/
structure Stage where
  engine : Engine
  events : List Event
  offers : List Offer

inductive Move (e : Engine) : List Event → List Offer → Engine → Prop
  | relay (address : Address) (stanza : Stanza) (escalation : Escalation) :
      Move e
        [.asked ⟨address, stanza, escalation, some e.handles.length⟩
          (e.offer ⟨address, stanza, escalation, some e.handles.length⟩).1]
        [e.offering ⟨address, stanza, escalation, some e.handles.length⟩]
        (e.relay address stanza escalation).2
  | turn {next : Engine} (turn : e.turn = some next) : Move e e.turnEvents e.turnOffers next
  | outside {after : Engine} (outside : e.Outside after) : Move e [] [] after

inductive Path : Engine → List Stage → Engine → Prop
  | rest (e : Engine) : Path e [] e
  | move {e next last : Engine} {events : List Event} {offers : List Offer} {later : List Stage}
      (move : e.Move events offers next) (path : Path next later last) :
      Path e (⟨e, events, offers⟩ :: later) last

inductive New : Engine → Prop
  | new {scheduled : Bool} {settings : Pool.Settings} {pool : Pool Job} (router : Router)
      (deliverer : Handover.Deliverer) (gate : Option Bool) (keepsCopies keepsLog : Bool)
      (site : Site) (launched : Pool.launch scheduled settings = .launched pool)
      (built : site.registry.Built) :
      New (empty router deliverer gate keepsCopies keepsLog site pool)

def historyOf (stages : List Stage) : List Event := stages.flatMap (·.events)

def offersOf (stages : List Stage) : List Offer := stages.flatMap (·.offers)

theorem New.reached (new : New e) : Reached [] e := by
  cases new with
  | new router deliverer gate keepsCopies keepsLog site launched built =>
    exact .new router deliverer gate keepsCopies keepsLog site launched built

theorem New.blank (new : New e) :
    e.log = [] ∧ e.metrics = .zero ∧ ∃ settings, e.pool = .empty settings := by
  cases new with
  | new router deliverer gate keepsCopies keepsLog site launched built =>
    exact ⟨rfl, rfl, _, (launched_eq launched).2⟩

theorem Move.reached {history : List Event} {offers : List Offer} (before : Reached history e)
    (move : e.Move events offers next) : Reached (history ++ events) next := by
  cases move with
  | relay address stanza escalation => exact before.relay address stanza escalation
  | turn turn => exact before.turn turn
  | outside outside =>
    rw [List.append_nil]
    exact before.outside outside

theorem Path.reached {stages : List Stage} {history : List Event} (before : Reached history e)
    (path : Path e stages last) : Reached (history ++ historyOf stages) last := by
  induction path generalizing history with
  | rest e => rwa [historyOf, List.flatMap_nil, List.append_nil]
  | move move path ih =>
    rw [historyOf, List.flatMap_cons, ← List.append_assoc]
    exact ih (move.reached before)

theorem Path.append {earlier later : List Stage} (first : Path e earlier next)
    (second : Path next later last) : Path e (earlier ++ later) last := by
  induction first with
  | rest e => exact second
  | move move path ih => exact .move move (ih second)

theorem Move.path {offers : List Offer} (move : e.Move events offers next) :
    Path e [⟨e, events, offers⟩] next :=
  .move move (.rest next)

theorem Reached.path {history : List Event} (reached : Reached history e) :
    ∃ start stages, New start ∧ Path start stages e ∧ historyOf stages = history := by
  have extend {history : List Event} {e next : Engine} {events : List Event}
      {offers : List Offer} (move : e.Move events offers next)
      (known : ∃ start stages, New start ∧ Path start stages e ∧ historyOf stages = history) :
      ∃ start stages, New start ∧ Path start stages next ∧
        historyOf stages = history ++ events := by
    obtain ⟨start, stages, new, path, rfl⟩ := known
    refine ⟨start, _, new, path.append move.path, ?_⟩
    simp [historyOf]
  induction reached with
  | new router deliverer gate keepsCopies keepsLog site launched built =>
    exact ⟨_, [], .new router deliverer gate keepsCopies keepsLog site launched built, .rest _, rfl⟩
  | relay address stanza escalation before ih => exact extend (.relay address stanza escalation) ih
  | turn before turn ih => exact extend (.turn turn) ih
  | outside before outside ih =>
    have more := extend (.outside outside) ih
    rwa [List.append_nil] at more

theorem Path.cut {before after : List Stage} {stage : Stage}
    (path : Path e (before ++ stage :: after) last) :
    ∃ next, Path e before stage.engine ∧ stage.engine.Move stage.events stage.offers next ∧
      Path next after last := by
  induction before generalizing e with
  | nil =>
    cases path with
    | move move path => exact ⟨_, .rest _, move, path⟩
  | cons first rest ih =>
    cases path with
    | move move path =>
      obtain ⟨next, earlier, here, later⟩ := ih path
      exact ⟨next, .move move earlier, here, later⟩

theorem Path.at_stage {stages : List Stage} {stage : Stage} (path : Path e stages last)
    (member : stage ∈ stages) :
    ∃ before after, Path e before stage.engine ∧ Path stage.engine after last := by
  obtain ⟨before, after, rfl⟩ := List.append_of_mem member
  obtain ⟨next, earlier, here, later⟩ := path.cut
  exact ⟨before, _, earlier, .move here later⟩

/-- What a move can come to: a request is answered, nothing is worked on in a turn, or a job is
that has to wait, or one that comes to its end; or the outside does something else. -/
inductive Moved (e : Engine) : Engine → List Event → List Offer → Prop
  | relayed {after : Engine} (task : Task) (answer : Option Pool.Admission)
      (relayed : e.Relayed task answer after) :
      Moved e after [.asked task answer] [⟨task, answer⟩]
  | quiet (pool : Pool Job) (turned : e.pool.Turned pool none none) :
      Moved e { e with pool := pool } [] []
  | waiting (pool : Pool Job) (job : Job) (began : Option Job)
      (turned : e.pool.Turned pool (some job) began) (waits : e.waits job = true) :
      Moved e { e.taking pool with
        pool := pool.suspend (.held job.task (e.targetsFor job)) } [] []
  | ending (pool : Pool Job) (job : Job) (began : Option Job)
      (turned : e.pool.Turned pool (some job) began) (free : e.waits job = false) :
      Moved e ((e.taking pool).concluded job).retire ((e.taking pool).workEvents job)
        ((e.taking pool).offersFor job)
  | outside {after : Engine} (outside : e.Outside after) : Moved e after [] []

theorem Move.moved {offers : List Offer} (move : e.Move events offers next) :
    e.Moved next events offers := by
  cases move with
  | relay address stanza escalation =>
    exact .relayed _ _ (relayed_relay e address stanza escalation)
  | turn turn =>
    rcases pool_turn_of_turn turn with
      ⟨pool, taken, turned, rfl⟩ | ⟨pool, job, _, taken, turned, ⟨waits, rfl⟩ | ⟨free, rfl⟩⟩
    · simp only [turnEvents, turnOffers, taken]
      exact .quiet pool turned
    · simp only [turnEvents, turnOffers, taken, waits, if_true]
      exact .waiting pool job _ turned waits
    · simp only [turnEvents, turnOffers, taken, free, Bool.false_eq_true, if_false]
      exact .ending pool job _ turned free
  | outside outside => exact .outside outside

def Event.execution? : Event → Option Execution
  | .executed x => some x
  | _ => none

def executions (history : List Event) : List Execution := history.filterMap Event.execution?

theorem mem_executions {history : List Event} {x : Execution} :
    x ∈ executions history ↔ .executed x ∈ history := by
  rw [executions, List.mem_filterMap]
  constructor
  · rintro ⟨event, member, found⟩
    cases event <;> cases found
    exact member
  · exact fun member => ⟨_, member, rfl⟩

theorem executions_append (history later : List Event) :
    executions (history ++ later) = executions history ++ executions later :=
  List.filterMap_append

theorem executions_workEvents (e : Engine) (job : Job) :
    executions (e.workEvents job) = [e.execution job] := by
  have silent : executions ((e.offersFor job).map (Offer.replied job.task)) = [] := by
    rw [executions, List.filterMap_map]
    exact List.filterMap_eq_nil_iff.2 fun _ _ => rfl
  rw [workEvents_eq]
  exact congrArg (List.cons _) silent

theorem map_task_fresh (tasks : List Task) : (tasks.map Job.fresh).map Job.task = tasks := by
  rw [List.map_map]
  exact List.map_id tasks

theorem Moved.tasks_perm {offers : List Offer} (moved : e.Moved next events offers) :
    (executions events).map (·.task) ++ next.pool.unfinished.map Job.task ~
      offers.filterMap Offer.admitted? ++ e.pool.unfinished.map Job.task := by
  cases moved with
  | relayed task answer relayed =>
    cases relayed with
    | refused stopped => exact .refl _
    | answered admission pool running submitted =>
      have parts := submitted.unfinished_perm.map Job.task
      cases admission <;> exact parts
  | quiet pool turned => exact (turned.unfinished_perm.map Job.task).symm
  | waiting pool job began turned waits =>
    exact ((unfinished_waiting turned (.held job.task (e.targetsFor job))).map Job.task).cons_inv
  | ending pool job began turned free =>
    rw [executions_workEvents]
    have parts := (ending_perm turned (intake_concluded_offers (e.taking pool) job)).map Job.task
    rwa [List.map_append, map_task_fresh] at parts
  | outside outside => exact outside.still.unfinished.map Job.task

/-- The tasks that were taken on along a path are those that have been carried out, once each,
and those that are not over. -/
theorem Path.tasks_perm {stages : List Stage} (path : Path e stages last) :
    (executions (historyOf stages)).map (·.task) ++ last.pool.unfinished.map Job.task ~
      (offersOf stages).filterMap Offer.admitted? ++ e.pool.unfinished.map Job.task := by
  induction path with
  | rest e => exact .refl _
  | @move e next last events offers later move path ih =>
    have executed : executions (historyOf (⟨e, events, offers⟩ :: later)) =
        executions events ++ executions (historyOf later) := executions_append ..
    have offered : (offersOf (⟨e, events, offers⟩ :: later)).filterMap Offer.admitted? =
        offers.filterMap Offer.admitted? ++ (offersOf later).filterMap Offer.admitted? :=
      List.filterMap_append
    rw [executed, offered, List.map_append, List.append_assoc, List.append_assoc]
    have here := move.moved.tasks_perm.append_left ((offersOf later).filterMap Offer.admitted?)
    exact (ih.append_left _).trans
      ((List.perm_append_comm_assoc ..).trans (here.trans (List.perm_append_comm_assoc ..)))

end Engine
end StanzaDelivery
