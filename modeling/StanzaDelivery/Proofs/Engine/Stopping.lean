import StanzaDelivery.Proofs.Engine.Bouncing
import StanzaDelivery.Proofs.Escalation.Sequence

/-! Stopping an engine. A stopped engine stays as it is when it is asked to relay something; it
carries out what it has taken on, and then its workers are gone. How it does that is compared
with another engine that finds the same sessions, accounts, stores and components: the two part
only where a reply is to be sent. -/

namespace StanzaDelivery.Engine

open scoped List
open Handover Routing

variable {e f next last : Engine} {events : List Event} {offers : List Offer} {stages : List Stage}

theorem offer_of_stopped (halt : e.running = false) (task : Task) : e.offer task = (none, e) := by
  rw [offer, halt]
  rfl

theorem relay_of_stopped (halt : e.running = false) (address : Address) (stanza : Stanza)
    (escalation : Escalation) : e.relay address stanza escalation = (.error stopped, e) := by
  rw [relay, offer_of_stopped halt]

theorem sendReply_of_stopped (halt : e.running = false) (destination : Address) (reply : Stanza) :
    sendReply destination reply e = (.error stopped, e) := by
  rw [sendReply, offer_of_stopped halt]

theorem unanswered_offersFor (halt : e.running = false) (job : Job) :
    ∀ offer ∈ e.offersFor job, offer.answer = none := by
  refine (offersIn_hold
    (fun f offers => f.running = false ∧ ∀ offer ∈ offers, offer.answer = none)
    ?_ ?_ ?_ _ _ ⟨?_, List.forall_mem_nil _⟩).2
  · rintro destination reply f offers ⟨halt, silent⟩
    refine ⟨(kept_sendReply destination reply f).running.trans halt, ?_⟩
    refine List.forall_mem_append.2 ⟨silent, List.forall_mem_singleton.2 ?_⟩
    rw [offering, offer_of_stopped halt]
  · rintro f offers ⟨halt, silent⟩
    exact ⟨(kept_keepPending _ f).running.trans halt, silent⟩
  · rintro f offers faults ⟨halt, silent⟩
    exact ⟨halt, silent⟩
  · exact (facing_kept ..).1.running.trans halt

theorem Moved.halted (moved : e.Moved next events offers) (halted : e.Halted) : next.Halted := by
  rcases moved.flags with ⟨running, closed⟩ | still
  · exact ⟨running.trans halted.running, closed.trans halted.closed⟩
  · exact still

theorem Moved.unanswered (moved : e.Moved next events offers) (halted : e.Halted) :
    ∀ offer ∈ offers, offer.answer = none := by
  cases moved with
  | relayed task answer relayed =>
    cases relayed with
    | refused halt => exact List.forall_mem_singleton.2 rfl
    | answered admission pool running submitted =>
      exact nomatch running.symm.trans halted.running
  | quiet pool turned => exact List.forall_mem_nil _
  | waiting pool job began turned waits => exact List.forall_mem_nil _
  | ending pool job began turned free =>
    exact unanswered_offersFor (e := e.taking pool) halted.running job
  | outside outside => exact List.forall_mem_nil _

theorem Path.halted (path : Path e stages last) (halted : e.Halted) :
    last.Halted ∧ ∀ offer ∈ offersOf stages, offer.answer = none := by
  induction path with
  | rest e => exact ⟨halted, List.forall_mem_nil _⟩
  | move move path ih =>
    obtain ⟨still, silent⟩ := ih (move.moved.halted halted)
    refine ⟨still, ?_⟩
    rw [offersOf, List.flatMap_cons]
    exact List.forall_mem_append.2 ⟨move.moved.unanswered halted, silent⟩

theorem admitted?_of_unanswered (silent : ∀ offer ∈ offers, offer.answer = none) :
    offers.filterMap Offer.admitted? = [] := by
  rw [List.filterMap_eq_nil_iff]
  intro offer member
  rw [Offer.admitted?, silent offer member]

/-- The engines are equipped the same, and find the same sessions, accounts, stores and
components. What they have to do may differ, and whether they have been stopped. -/
structure Alike (e f : Engine) : Prop where
  router : e.router = f.router
  deliverer : e.deliverer = f.deliverer
  gate : e.gate = f.gate
  keepsCopies : e.keepsCopies = f.keepsCopies
  site : e.site = f.site

theorem Alike.targetsFor (alike : e.Alike f) (job : Job) : e.targetsFor job = f.targetsFor job := by
  cases job with
  | held task targets => rfl
  | fresh task => rw [Engine.targetsFor, Engine.targetsFor, alike.router, alike.site]

theorem Alike.waits (alike : e.Alike f) (job : Job) : e.waits job = f.waits job := by
  cases job with
  | held task targets => rfl
  | fresh task =>
    rw [Engine.waits, Engine.waits, mustWait, mustWait, alike.gate, alike.targetsFor]

theorem Alike.routed (alike : e.Alike f) (job : Job) : e.routed job = f.routed job := by
  cases job with
  | fresh task => rw [Engine.routed, Engine.routed, alike.router, alike.deliverer, alike.site]
  | held task targets => rw [Engine.routed, Engine.routed, alike.deliverer, alike.site]

theorem site_faced (copies : e.keepsCopies = f.keepsCopies) (same : e.site = f.site) (task : Task)
    (report : Report) : (faced task report e).site = (faced task report f).site := by
  simp only [faced, keepCopy, copies, same]
  split <;> rfl

theorem watched_send_of_stopped (halt : e.running = false) (destination : Address)
    (reply : Stanza) :
    watched.send destination reply (e, offers) =
      (.error stopped, e, offers ++ [⟨replyTask destination reply, none⟩]) := by
  simp only [watched, sendReply_of_stopped halt, offering, offer_of_stopped halt]

theorem watched_refuses : watched.Refuses facilities
    (fun watching f => watching.2 = [] ∧ watching.1.running = false ∧ watching.1.site = f.site)
    stopped := by
  refine ⟨?_, ?_, ?_⟩
  · rintro destination reply ⟨e, offers⟩ f ⟨_, halt, _⟩
    rw [watched_send_of_stopped halt]
  · rintro stanza ⟨e, offers⟩ f ⟨none, halt, same⟩
    simp only [watched, facilities, keepPending]
    rw [same]
    exact ⟨rfl, none, halt, rfl⟩
  · rintro stanza faults ⟨e, offers⟩ f related
    exact related

def Task.trying (task : Task) (remedies : List Remedy) : Task :=
  { task with escalation := .ofRemedies remedies }

def Job.trying : Job → List Remedy → Job
  | .fresh task, remedies => .fresh (task.trying remedies)
  | .held task targets, remedies => .held (task.trying remedies) targets

theorem dealWith_of_faulty {task : Task} {report : Report} (faulty : report.hasFaults = true)
    (e : Engine) {ending : Escalation.Ending} {after : Engine}
    (tried : Escalation.inTurn (Escalation.tryRemedy facilities task.stanza report.faults)
      task.escalation.remedies (faced task report e) = (ending, after)) :
    dealWith task report e = (escalated report ending, after) := by
  rw [dealWith_eq, if_pos faulty, Escalation.tryAll_eq_inTurn, tried]

theorem dealWith_trying {task : Task} {report : Report} (faulty : report.hasFaults = true)
    {remedies : List Remedy} {after : Engine}
    (done : Escalation.inTurn (Escalation.tryRemedy facilities task.stanza report.faults) remedies
      (faced task report e) = (.done, after)) :
    dealWith (task.trying remedies) report e = (report, after) := by
  have known : (task.trying remedies).escalation.remedies = remedies :=
    Escalation.remedies_ofRemedies remedies
  have tried : Escalation.inTurn
      (Escalation.tryRemedy facilities (task.trying remedies).stanza report.faults)
      (task.trying remedies).escalation.remedies (faced (task.trying remedies) report e) =
        (.done, after) := by
    rw [known]
    exact done
  exact dealWith_of_faulty faulty e tried

theorem watched_dealWith {task : Task} {report : Report} (faulty : report.hasFaults = true)
    {ending : Escalation.Ending} {after : Engine}
    (watching : Escalation.inTurn (Escalation.tryRemedy watched task.stanza report.faults)
      task.escalation.remedies (faced task report e, []) = (ending, after, offers)) :
    offersIn task (.reported report) e = offers ∧
      dealWith task report e = (escalated report ending, after) := by
  have same := Escalation.tryAll_agree task.stanza report.faults watched_agree
    (s := (faced task report e, [])) rfl task.escalation
  rw [Escalation.tryAll_eq_inTurn, Escalation.tryAll_eq_inTurn, watching] at same
  refine ⟨?_, dealWith_of_faulty faulty e (Prod.ext same.1.symm same.2.symm)⟩
  rw [offersIn, if_pos faulty, Escalation.tryAll_eq_inTurn, watching]

/-- Where a stopped engine deals with the faults of a task, either no reply is offered, and the
other engine does the same; or the one reply that is offered is refused, and what comes before
it is done as by the other engine, and nothing else. -/
theorem dealt_of_stopped (halt : e.running = false) (copies : e.keepsCopies = f.keepsCopies)
    (same : e.site = f.site) (task : Task) (resolution : Resolution) :
    (offersIn task resolution e = [] ∧
      outcomeOf task resolution e = outcomeOf task resolution f ∧
      (dealt task resolution e).site = (dealt task resolution f).site) ∨
    ∃ tried rest report destination reply, resolution = .reported report ∧
      task.escalation.remedies = tried ++ .bounce :: rest ∧
      Bounce.reply? task.stanza report.faults = some (destination, reply) ∧
      offersIn task resolution e = [⟨replyTask destination reply, none⟩] ∧
      outcomeOf task resolution e = some (.failed (escalationFailed stopped)) ∧
      outcomeOf (task.trying tried) resolution f = some report ∧
      (dealt task resolution e).site = (dealt (task.trying tried) resolution f).site := by
  cases resolution with
  | discarded => exact .inl ⟨rfl, rfl, same⟩
  | crashed => exact .inl ⟨rfl, rfl, same⟩
  | reported report =>
    by_cases faulty : report.hasFaults = true
    · have halted : (faced task report e).running = false :=
        (kept_faced task report e).1.running.trans halt
      have either := @Escalation.Facilities.Refuses.inTurn_eq_or _ _ watched facilities _
        stopped task.stanza report.faults watched_refuses task.escalation.remedies
        (faced task report e, []) (faced task report f)
        ⟨rfl, halted, site_faced copies same task report⟩
      generalize watching : Escalation.inTurn
        (Escalation.tryRemedy watched task.stanza report.faults)
        task.escalation.remedies (faced task report e, []) = tried at either
      obtain ⟨ending, after, offers⟩ := tried
      obtain ⟨offered, dealing⟩ := watched_dealWith faulty watching
      rw [offered, outcomeOf, dealt, dealing]
      rcases either with ⟨endings, silent, _, sites⟩ | ⟨tried, rest, destination, reply,
        ⟨s, _⟩, t, parts, call, done, ⟨rfl, off, sites⟩, refused⟩
      · have alike : dealWith task report f = (escalated report ending, _) :=
          dealWith_of_faulty faulty f (Prod.ext endings.symm rfl)
        refine .inl ⟨silent, ?_, ?_⟩
        · rw [outcomeOf, alike]
        · rw [dealt, alike]
          exact sites
      · rw [watched_send_of_stopped off, Prod.mk.injEq, Prod.mk.injEq] at refused
        obtain ⟨rfl, rfl, rfl⟩ := refused
        refine .inr ⟨tried, rest, report, destination, reply, rfl, parts, call, rfl, rfl, ?_, ?_⟩
        · rw [outcomeOf, dealWith_trying faulty done]
        · rw [dealt, dealWith_trying faulty done]
          exact sites
    · have clean (task : Task) (e : Engine) : dealWith task report e = (report, e) := by
        rw [dealWith_eq, if_neg faulty]
      refine .inl ⟨?_, ?_, ?_⟩
      · rw [offersIn, if_neg faulty]
      · rw [outcomeOf, outcomeOf, clean, clean]
      · rw [dealt, dealt, clean, clean, same]

/-- The job comes to the same as with the other engine, and nothing is offered. -/
def EndsAs (f : Engine) (job : Job) (x : Execution) (site : Site) (offers : List Offer) : Prop :=
  offers = [] ∧ x.outcome = (f.execution job).outcome ∧ site = (f.concluded job).site

/-- The first reply that the escalation of the job sends is refused. What comes before it is done
as by the other engine, where it ends well; what comes after it is not tried, and the task has
failed for that reason. -/
def EndsRefused (f : Engine) (job : Job) (x : Execution) (site : Site) (offers : List Offer) :
    Prop :=
  ∃ tried rest report destination reply, x.resolution = .reported report ∧
    job.task.escalation.remedies = tried ++ .bounce :: rest ∧
    Bounce.reply? job.task.stanza report.faults = some (destination, reply) ∧
    offers = [⟨replyTask destination reply, none⟩] ∧
    x.outcome = some (.failed (escalationFailed stopped)) ∧
    (f.execution (job.trying tried)).outcome = some report ∧
    site = (f.concluded (job.trying tried)).site

theorem site_concluded (e : Engine) (job : Job) :
    (e.concluded job).site =
      (dealt job.task (e.routed job).1 { e with site := (e.routed job).2 }).site := by
  obtain ⟨metrics, same⟩ :=
    conclude_eq job.task (e.routed job).1 { e with site := (e.routed job).2 }
  rw [concluded, same]

theorem task_trying (job : Job) (remedies : List Remedy) :
    (job.trying remedies).task = job.task.trying remedies := by
  cases job <;> rfl

theorem routed_trying (e : Engine) (job : Job) (remedies : List Remedy) :
    e.routed (job.trying remedies) = e.routed job := by
  cases job <;> rfl

theorem Alike.concluded (alike : e.Alike f) (halt : e.running = false) (job : Job) :
    (e.execution job).resolution = (f.execution job).resolution ∧
      (e.execution job).arrivals = (f.execution job).arrivals ∧
      (EndsAs f job (e.execution job) (e.concluded job).site (e.offersFor job) ∨
        EndsRefused f job (e.execution job) (e.concluded job).site (e.offersFor job)) := by
  have same := alike.routed job
  have either := dealt_of_stopped (e := { e with site := (f.routed job).2 })
    (f := { f with site := (f.routed job).2 }) halt alike.keepsCopies rfl job.task (f.routed job).1
  refine ⟨?_, ?_, ?_⟩
  · rw [execution, execution, same]
  · rw [execution, execution, same, alike.site]
  · simp only [EndsAs, EndsRefused, execution, site_concluded, offersFor, routed_trying,
      task_trying, same]
    rcases either with fine | ⟨tried, rest, report, refused⟩
    · exact .inl fine
    · obtain ⟨destination, reply, known, parts, call, made, outcome, other, sites⟩ := refused
      exact .inr ⟨tried, rest, report, destination, reply, known, parts, call, made, outcome,
        other, sites⟩

theorem Halted.turn (halted : e.Halted) {pool : Pool Job} {job : Job}
    (handed : e.pool.turn = some (pool, some job)) (alike : e.Alike f)
    (free : e.waits job = false) :
    ∃ next x, e.turn = some next ∧ executions e.turnEvents = [x] ∧ x.task = job.task ∧
      x.resolution = (f.execution job).resolution ∧ x.arrivals = (f.execution job).arrivals ∧
      (EndsAs f job x next.site e.turnOffers ∨ EndsRefused f job x next.site e.turnOffers) := by
  have ready : (e.taking pool).Alike f :=
    ⟨alike.router, alike.deliverer, alike.gate, alike.keepsCopies, alike.site⟩
  obtain ⟨resolution, arrivals, either⟩ := ready.concluded halted.running job
  have events : e.turnEvents = (e.taking pool).workEvents job := by
    simp only [turnEvents, handed, free, Bool.false_eq_true, if_false]
  have offers : e.turnOffers = (e.taking pool).offersFor job := by
    simp only [turnOffers, handed, free, Bool.false_eq_true, if_false]
  have busy : e.turn.isSome = true := by
    rw [Engine.turn, handed]
    rfl
  obtain ⟨next, turn⟩ := Option.isSome_iff_exists.1 busy
  rw [events, offers, executions_workEvents]
  rcases pool_turn_of_turn turn with
    ⟨_, taken, _, _⟩ | ⟨_, _, _, taken, _, ⟨waits, _⟩ | ⟨_, rfl⟩⟩
  · cases handed.symm.trans taken
  · cases handed.symm.trans taken
    cases free.symm.trans waits
  · cases handed.symm.trans taken
    exact ⟨_, _, turn, rfl, rfl, resolution, arrivals, either⟩

theorem path_run (e : Engine) (turns : Nat) : ∃ stages, Path e stages (run turns e) := by
  induction turns generalizing e with
  | zero => exact ⟨[], .rest e⟩
  | succ n ih =>
    rw [run]
    cases turn : e.turn with
    | none => exact ⟨[], .rest e⟩
    | some next =>
      obtain ⟨stages, path⟩ := ih next
      exact ⟨_, .move (.turn turn) path⟩

theorem path_settle (e : Engine) : ∃ stages, Path e stages e.settle := by
  obtain ⟨stages, path⟩ := path_run e (e.pool.effort weight)
  exact ⟨_, path.append (.move (.outside (.pass 0)) (.rest _))⟩

theorem path_setGate (e : Engine) :
    (∃ stages, Path e stages (e.setGate true)) ∧ (e.setGate true).turn = none ∧
      (e.setGate true).gate ≠ some false := by
  rw [Engine.setGate, if_pos rfl]
  obtain ⟨stages, path⟩ := path_settle
    { e with gate := e.gate.map fun _ => true, pool := e.pool.resume fun _ => true }
  refine ⟨⟨_, .move (.outside .unlock) path⟩, turn_settle _, ?_⟩
  rw [settle, exhaust, gate_run]
  cases e.gate <;> simp

theorem Sound.over (sound : e.Sound) (closed : e.pool.closed = true) (still : e.turn = none)
    (loose : e.gate ≠ some false) :
    e.pool.isOver = true ∧ e.pool.stats.workers = 0 ∧ e.pool.stats.busy = 0 ∧
      e.pool.stats.queued = 0 := by
  obtain ⟨_, _, workers, busy, queued⟩ := Pool.ended_of_still sound.staffed sound.balanced closed
    (ready_eq_nil_of_still still) (sound.suspended_eq_nil loose)
  simp [Pool.isOver, Pool.stats, closed, workers, busy, queued]

/-- Stopping an engine is a clean cut, up to replies. For ever after it does not run, and stopping
it again changes nothing. Whoever asks it to relay something is refused, and nothing changes.
What was taken on before is carried out once, and nothing else is. A job that is carried out is
routed as by any engine that finds the same site, whether stopped or not, and comes to the same
unless its escalation has a reply to send; then what comes before that reply is done all the
same, and what comes after it is not. Where nobody waits at a shut gate, an engine at rest has
carried out everything, and its workers are gone; and it can always be brought there. -/
theorem stop_is_clean_cut_unless_bounce_refused {start e last : Engine} {before later : List Stage}
    (new : New start) (path : Path start before e) (after : Path e.stop later last) :
    (last.running = false ∧ last.stop = last) ∧
    (stopped.kind = .serviceUnavailable ∧
      (∀ address stanza escalation,
        last.relay address stanza escalation = (.error stopped, last)) ∧
      (∀ f : Engine, f.running = last.running → ∀ destination reply,
        sendReply destination reply f = (.error stopped, f)) ∧
      ∀ offer ∈ offersOf later, offer.answer = none) ∧
    ((executions (historyOf before) ++ executions (historyOf later)).map (·.task) ++
      last.pool.unfinished.map Job.task ~ (offersOf before).filterMap Offer.admitted?) ∧
    (∀ pool job, last.pool.turn = some (pool, some job) → ∀ f, last.Alike f →
      f.targetsFor job = last.targetsFor job ∧ f.waits job = last.waits job ∧
      (last.waits job = false →
        ∃ next x, last.turn = some next ∧ executions last.turnEvents = [x] ∧ x.task = job.task ∧
          x.resolution = (f.execution job).resolution ∧ x.arrivals = (f.execution job).arrivals ∧
          (EndsAs f job x next.site last.turnOffers ∨
            EndsRefused f job x next.site last.turnOffers))) ∧
    ((escalationFailed stopped).kind = .failed ∧
      (escalationFailed stopped).causes = [stopped.message]) ∧
    (last.turn = none → last.gate ≠ some false →
      last.pool.unfinished = [] ∧ last.pool.isOver = true ∧ last.pool.stats.workers = 0 ∧
        last.pool.stats.busy = 0 ∧ last.pool.stats.queued = 0) ∧
    (∃ more, Path last more (last.setGate true)) ∧ (last.setGate true).turn = none ∧
      (last.setGate true).gate ≠ some false := by
  obtain ⟨halted, silent⟩ := after.halted e.halted_stop
  have whole := path.append (.move (.outside .stop) after)
  have sound := (whole.reached new.reached).sound
  refine ⟨⟨halted.running, ?_⟩, ⟨rfl, relay_of_stopped halted.running, ?_, silent⟩, ?_, ?_,
    ⟨rfl, rfl⟩, ?_, last.path_setGate⟩
  · have same : { last with running := false, pool := last.pool } = last := by
      rw [← halted.running]
    rw [Engine.stop, sound.staffed.close_eq halted.closed, same]
  · intro f alike
    exact sendReply_of_stopped (alike.trans halted.running)
  · have first := path.tasks_perm
    have second := after.tasks_perm
    rw [new.unfinished, List.map_nil, List.append_nil] at first
    rw [admitted?_of_unanswered silent, List.nil_append] at second
    have kept := (Outside.stop (e := e)).still.unfinished.map Job.task
    rw [List.map_append, List.append_assoc]
    exact ((second.trans kept).append_left _).trans first
  · intro pool job handed f alike
    exact ⟨(alike.targetsFor job).symm, (alike.waits job).symm, halted.turn handed alike⟩
  · intro still loose
    exact ⟨sound.unfinished_eq_nil still loose, sound.over halted.closed still loose⟩

theorem stop_is_clean_cut_unless_bounce_refused_at_post_office :
    ∃ start before e later last x, New start ∧ Path start before e ∧ Path e.stop later last ∧
      last.turn = none ∧ (offersOf before).filterMap Offer.admitted? = [strayTask] ∧
      executions (historyOf later) = [x] ∧ x.task = strayTask ∧
      x.resolution = .reported (.failed .noSuchUser) ∧
      x.outcome = some (.failed (escalationFailed stopped)) ∧ last.pool.isOver = true := by
  let pool : Pool Job := Pool.begin { postOffice.stop.pool with ready := [] }
  have move : emptyPostOffice.Move _ _ postOffice :=
    .relay strayTask.address strayTask.stanza strayTask.escalation
  obtain ⟨_, _, _, turns, _⟩ :=
    stop_is_clean_cut_unless_bounce_refused new_emptyPostOffice move.path (.rest postOffice.stop)
  obtain ⟨_, _, carriesOut⟩ :=
    turns pool (.fresh strayTask) rfl postOffice ⟨rfl, rfl, rfl, rfl, rfl⟩
  obtain ⟨next, x, turn, executed, task, resolution, _, either⟩ := carriesOut rfl
  have offered : postOffice.stop.turnOffers.length = 1 := by decide +kernel
  have refused : EndsRefused postOffice (.fresh strayTask) x next.site postOffice.stop.turnOffers :=
    either.resolve_left fun same => nomatch (congrArg List.length same.1).symm.trans offered
  obtain ⟨_, _, _, _, _, _, _, _, _, outcome, _⟩ := refused
  have busy : next.turn.isSome = true := by
    cases turn
    decide +kernel
  have still : (run 1 next).turn = none := by
    rw [← Option.isNone_iff_eq_none]
    cases turn
    decide +kernel
  have quiet : executions next.turnEvents = [] := by
    cases turn
    decide +kernel
  have later := Path.move (.turn turn) (.move (.turn (turn_eq_run_one busy)) (.rest (run 1 next)))
  obtain ⟨_, _, _, _, _, ends, _⟩ :=
    stop_is_clean_cut_unless_bounce_refused new_emptyPostOffice move.path later
  have free : (run 1 next).gate ≠ some false := by
    cases turn
    decide +kernel
  refine ⟨_, _, _, _, _, x, new_emptyPostOffice, move.path, later, still, ?_, ?_, task, ?_,
    outcome, ?_⟩
  · rfl
  · simpa [historyOf, executions_append, quiet] using executed
  · rw [resolution]
    decide +kernel
  · exact (ends still free).2.1

/-- A letter for the telephone's account while nobody is there, to be bounced and then kept. -/
def heldTask : Task where
  address := telephone.bare.toAddress
  stanza := .message ⟨.chat, some telephone.bare.toAddress,
    some (⟨some "bob", "waddle.social"⟩ : BareAddress).toAddress, some "m1", none, none⟩
  escalation := .chain [.single .bounce, .single .storeOffline]
  handle := some 0

def emptySortingOffice : Engine :=
  empty ⟨⟨"waddle.social", false⟩, false, false⟩ handoff none false false
    { telephoneSite 0 with registry := .empty } (.empty ⟨1, 2, 1, 60000⟩)

def sortingOffice : Engine :=
  (emptySortingOffice.relay heldTask.address heldTask.stanza heldTask.escalation).2

/-- The office that runs keeps the letter; the one that was stopped, which finds everything as
the other does, has a bounce refused and does not keep it. -/
theorem stop_loses_what_is_kept_after_bounce :
    ∃ start before e pool, New start ∧ Path start before e ∧ e.running = true ∧
      (offersOf before).filterMap Offer.admitted? = [heldTask] ∧ e.stop.Alike e ∧
      e.stop.pool.turn = some (pool, some (.fresh heldTask)) ∧
      e.stop.waits (.fresh heldTask) = false ∧
      (e.concluded (.fresh heldTask)).site.pending.heldBy telephone.bare =
        [⟨telephone.bare, heldTask.stanza, false⟩] ∧
      (e.stop.concluded (.fresh heldTask)).site.pending.heldBy telephone.bare = [] := by
  have new : New emptySortingOffice := .new _ handoff none false false
    { telephoneSite 0 with registry := .empty } launched_small .empty
  have move : emptySortingOffice.Move _ _ sortingOffice :=
    .relay heldTask.address heldTask.stanza heldTask.escalation
  refine ⟨_, _, _, _, new, move.path, rfl, rfl, ⟨rfl, rfl, rfl, rfl, rfl⟩, rfl, rfl, ?_, ?_⟩
  · decide +kernel
  · decide +kernel

end StanzaDelivery.Engine
