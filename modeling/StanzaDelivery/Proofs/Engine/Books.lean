import Mathlib.Algebra.GroupWithZero.Nat
import StanzaDelivery.Proofs.Engine.Handles
import StanzaDelivery.Proofs.Engine.Offers

/-! The books of an engine: its log, its metrics, and the pool's count of rejections. They are
kept in different places, by whoever offers a task, by whoever deals with its faults and by
whoever ends it. What each step enters is said once, for all the books together; what a path
has entered is then the sum over its stages, whatever the order of the steps was. -/

namespace StanzaDelivery

theorem Metrics.countFaults_eq (m : Metrics) (faults : List Fault) :
    m.countFaults faults = { m with
      faults := fun kind => m.faults kind + faults.countP fun fault => fault.kind = kind } := by
  induction faults generalizing m with
  | nil => rfl
  | cons fault rest ih =>
    have step : m.countFaults (fault :: rest) = (m.countFault fault.kind).countFaults rest := rfl
    rw [step, ih, Metrics.countFault]
    congr 1
    funext kind
    by_cases own : kind = fault.kind
    · subst own
      simp
      omega
    · simp [own, Ne.symm own]

namespace Engine

open scoped List

variable {e next last after : Engine} {events : List Event} {offers more : List Offer}

namespace Offer

def logged? (offer : Offer) : Option (Address × Stanza) :=
  match offer.answer with
  | none => none
  | some _ => some (offer.task.address, offer.task.stanza)

def isRejected (offer : Offer) : Bool := offer.answer = some .rejected

def isSubmitted (kind : Stanza.Kind) (offer : Offer) : Bool :=
  (offer.answer = some .started ∨ offer.answer = some .queued) ∧ offer.task.stanza.kind = kind

def call (offer : Offer) : Address × Stanza × Except Fault Unit :=
  (offer.task.address, offer.task.stanza, offer.result)

end Offer

def Event.call? : Event → Option (Address × Stanza × Except Fault Unit)
  | .asked task answer => some (Offer.call ⟨task, answer⟩)
  | .replied _ destination reply answer => some (destination, reply, answer)
  | .executed _ => none

/-- The labels that the latency of a task with this outcome is recorded with; a crash leaves no
latency. -/
def labelOf (task : Task) (resolution : Resolution) (outcome : Option Report) :
    Option (Stanza.Kind × Option Verdict) :=
  match resolution with
  | .crashed => none
  | .discarded => some (task.stanza.kind, outcome.map Report.verdict)
  | .reported _ => some (task.stanza.kind, outcome.map Report.verdict)

def Execution.label? (x : Execution) : Option (Stanza.Kind × Option Verdict) :=
  labelOf x.task x.resolution x.outcome

theorem label?_eq_some_iff (x : Execution) (kind : Stanza.Kind) (verdict : Option Verdict) :
    x.label? = some (kind, verdict) ↔
      x.resolution ≠ .crashed ∧ x.task.stanza.kind = kind ∧
        x.outcome.map Report.verdict = verdict := by
  unfold Execution.label?
  cases x.resolution <;> simp [labelOf]

theorem isSome_label? (x : Execution) : x.label?.isSome = decide (x.resolution ≠ .crashed) := by
  unfold Execution.label?
  cases x.resolution <;> simp [labelOf]

/-- What the books show after these offers, these faults and these latencies. -/
structure Booked (e after : Engine) (offers : List Offer) (faults : List Fault)
    (labels : List (Stanza.Kind × Option Verdict)) : Prop where
  keepsLog : after.keepsLog = e.keepsLog
  log : after.log = e.log ++ if e.keepsLog then offers.filterMap Offer.logged? else []
  submitted : ∀ kind, after.metrics.submitted kind =
    e.metrics.submitted kind + offers.countP (Offer.isSubmitted kind)
  rejected : after.metrics.rejected = e.metrics.rejected + offers.countP Offer.isRejected
  refused : after.pool.rejected = e.pool.rejected + offers.countP Offer.isRejected
  faults : ∀ kind, after.metrics.faults kind =
    e.metrics.faults kind + faults.countP fun fault => fault.kind = kind
  latencies : ∀ kind verdict, after.metrics.latencies kind verdict =
    e.metrics.latencies kind verdict + labels.count (kind, verdict)

theorem log_of_unlogged {offers : List Offer} (same : after.log = e.log)
    (unlogged : offers.filterMap Offer.logged? = []) :
    after.log = e.log ++ if e.keepsLog then offers.filterMap Offer.logged? else [] := by
  rw [same, unlogged]
  split <;> exact (List.append_nil _).symm

theorem Booked.nothing (keepsLog : after.keepsLog = e.keepsLog) (log : after.log = e.log)
    (metrics : { after.metrics with busy := none } = { e.metrics with busy := none })
    (rejected : after.pool.rejected = e.pool.rejected) : Booked e after [] [] [] := by
  injection metrics with submitted rejections faults _ latencies
  refine ⟨keepsLog, log_of_unlogged log rfl, ?_, rejections, rejected, ?_, ?_⟩
  · exact fun kind => congrFun submitted kind
  · exact fun kind => congrFun faults kind
  · exact fun kind verdict => congrFun (congrFun latencies kind) verdict

theorem Booked.refl (e : Engine) : Booked e e [] [] [] := .nothing rfl rfl rfl rfl

theorem Booked.trans {faults others : List Fault}
    {labels further : List (Stanza.Kind × Option Verdict)}
    (first : Booked e next offers faults labels) (second : Booked next last more others further) :
    Booked e last (offers ++ more) (faults ++ others) (labels ++ further) := by
  refine ⟨second.keepsLog.trans first.keepsLog, ?_, ?_, ?_, ?_, ?_, ?_⟩
  · rw [second.log, first.log, first.keepsLog]
    split <;> simp
  · intro kind
    rw [second.submitted, first.submitted, List.countP_append, Nat.add_assoc]
  · rw [second.rejected, first.rejected, List.countP_append, Nat.add_assoc]
  · rw [second.refused, first.refused, List.countP_append, Nat.add_assoc]
  · intro kind
    rw [second.faults, first.faults, List.countP_append, Nat.add_assoc]
  · intro kind verdict
    rw [second.latencies, first.latencies, List.count_append, Nat.add_assoc]

theorem Booked.and_nothing {faults : List Fault}
    {labels : List (Stanza.Kind × Option Verdict)} (first : Booked e next offers faults labels)
    (second : Booked next last [] [] []) : Booked e last offers faults labels := by
  have both := first.trans second
  rwa [List.append_nil, List.append_nil, List.append_nil] at both

theorem Offered.booked {task : Task} {answer : Option Pool.Admission}
    (offered : e.Offered task answer after) : Booked e after [⟨task, answer⟩] [] [] := by
  cases offered with
  | refused stopped =>
    exact ⟨rfl, log_of_unlogged rfl rfl, fun _ => rfl, rfl, rfl, fun _ => rfl, fun _ _ => rfl⟩
  | answered admission pool running submitted =>
    refine ⟨rfl, ?_, ?_, ?_, ?_, ?_, ?_⟩
    · dsimp only [logged]
      split <;> simp [Offer.logged?]
    · intro kind
      by_cases own : kind = task.stanza.kind
      · cases admission <;>
          simp [countAdmission, Metrics.countSubmitted, Metrics.countRejected, Offer.isSubmitted,
            own]
      · cases admission <;>
          simp [countAdmission, Metrics.countSubmitted, Metrics.countRejected, Offer.isSubmitted,
            own, Ne.symm own]
    · cases admission <;>
        simp [countAdmission, Metrics.countSubmitted, Metrics.countRejected, Offer.isRejected]
    · rw [submitted.rejected_eq]
      cases admission <;> simp [Offer.isRejected]
    · intro kind
      cases admission <;> rfl
    · intro kind verdict
      cases admission <;> rfl

theorem booked_keepCopy (stanza : Stanza) (report : Report) (e : Engine) :
    Booked e (keepCopy stanza report e) [] [] [] := by
  rw [keepCopy]
  split <;> exact .nothing rfl rfl rfl rfl

theorem booked_facing (task : Task) (resolution : Resolution) (e : Engine) :
    Booked e (facing task resolution e) [] resolution.faults [] := by
  cases resolution with
  | discarded => exact .refl e
  | crashed => exact .refl e
  | reported report =>
    rw [facing]
    split
    next faulty =>
      have counted : Booked e { e with metrics := e.metrics.countFaults report.faults } []
          report.faults [] := by
        rw [Metrics.countFaults_eq]
        exact ⟨rfl, log_of_unlogged rfl rfl, fun _ => rfl, rfl, rfl, fun _ => rfl, fun _ _ => rfl⟩
      exact counted.and_nothing (booked_keepCopy task.stanza report _)
    next clean =>
      have none : report.faults = [] := by simpa [Report.hasFaults] using clean
      rw [Resolution.faults, none]
      exact .refl e

theorem booked_dealt (task : Task) (resolution : Resolution) (e : Engine) :
    Booked e (dealt task resolution e) (offersIn task resolution e) resolution.faults [] := by
  refine offersIn_hold (fun f offers => Booked e f offers _ []) ?_ ?_ ?_ resolution e
    (booked_facing task resolution e)
  · intro destination reply f offers booked
    rw [sendReply_eq]
    have more := booked.trans (f.offered_offer (replyTask destination reply)).booked
    rwa [List.append_nil] at more
  · intro f offers booked
    exact booked.and_nothing (.nothing rfl rfl rfl rfl)
  · intro f offers faults booked
    exact booked.and_nothing (.nothing rfl rfl rfl rfl)

theorem booked_settleHandle (task : Task) (outcome : Option Report) (e : Engine) :
    Booked e (settleHandle task outcome e) [] [] [] := by
  rw [settleHandle_eq]
  exact .nothing rfl rfl rfl rfl

theorem booked_complete (task : Task) (outcome : Option Report) (e : Engine) :
    Booked e (complete task outcome e) [] []
      [(task.stanza.kind, outcome.map Report.verdict)] := by
  let timed : Engine :=
    { e with metrics := e.metrics.countLatency task.stanza.kind (outcome.map Report.verdict) }
  have counted : Booked e timed [] [] [(task.stanza.kind, outcome.map Report.verdict)] := by
    refine ⟨rfl, log_of_unlogged rfl rfl, fun _ => rfl, rfl, rfl, fun _ => rfl, ?_⟩
    intro kind verdict
    simp only [timed, Metrics.countLatency, List.count_singleton]
    by_cases own : kind = task.stanza.kind ∧ verdict = outcome.map Report.verdict
    · rw [if_pos own, own.1, own.2, beq_self_eq_true, if_pos rfl]
    · have other : ((task.stanza.kind, outcome.map Report.verdict) == (kind, verdict)) = false := by
        rw [beq_eq_false_iff_ne]
        rintro ⟨⟩
        exact own ⟨rfl, rfl⟩
      rw [if_neg own, other]
      rfl
  exact counted.and_nothing (booked_settleHandle task outcome timed)

theorem booked_conclude (task : Task) (resolution : Resolution) (e : Engine) :
    Booked e (conclude task resolution e) (offersIn task resolution e) resolution.faults
      (labelOf task resolution (outcomeOf task resolution e)).toList := by
  have dealing := booked_dealt task resolution e
  cases resolution with
  | crashed => exact dealing.and_nothing (booked_settleHandle task none e)
  | discarded => exact booked_complete task none e
  | reported report =>
    have ended := dealing.trans (booked_complete task (some (dealWith task report e).1) _)
    rwa [List.append_nil, List.append_nil] at ended

theorem booked_concluded (e : Engine) (job : Job) :
    Booked e (e.concluded job) (e.offersFor job) (e.routed job).1.faults
      (e.execution job).label?.toList := by
  have routed : Booked e { e with site := (e.routed job).2 } [] [] [] := .nothing rfl rfl rfl rfl
  exact routed.trans (booked_conclude job.task (e.routed job).1 _)

theorem Relayed.booked {task : Task} {answer : Option Pool.Admission}
    (relayed : e.Relayed task answer after) : Booked e after [⟨task, answer⟩] [] [] := by
  cases relayed with
  | refused stopped => exact (Offered.refused stopped).booked
  | answered admission pool running submitted =>
    exact (Offered.answered admission pool running submitted).booked.and_nothing
      (.nothing rfl rfl rfl rfl)

theorem Outside.booked (outside : e.Outside after) : Booked e after [] [] [] := by
  cases outside with
  | takeOutcome handle =>
    unfold Engine.takeOutcome
    split
    · exact .nothing rfl rfl rfl rfl
    · exact .refl e
  | pass ms => exact .nothing rfl rfl rfl (by rw [Pool.pass_eq])
  | setMaxWorkers n set =>
    obtain ⟨_, rfl⟩ := (Pool.setMaxWorkers_eq_ok_iff e.pool _ n).1 set
    exact .nothing rfl rfl rfl rfl
  | stop => exact .nothing rfl rfl rfl (Pool.rejected_wake _)
  | furnish site changed => exact .nothing rfl rfl rfl rfl
  | shut => exact .nothing rfl rfl rfl rfl
  | unlock => exact .nothing rfl rfl rfl rfl
  | setKeepAlive ms => exact .nothing rfl rfl rfl rfl
  | throughput => exact .nothing rfl rfl rfl rfl

theorem Moved.booked (moved : e.Moved next events offers) :
    Booked e next offers ((executions events).flatMap (·.resolution.faults))
      ((executions events).filterMap Execution.label?) := by
  cases moved with
  | relayed task answer relayed => exact relayed.booked
  | quiet pool turned => exact .nothing rfl rfl rfl turned.kept.2.2.2.1
  | waiting pool job began turned waits => exact .nothing rfl rfl rfl turned.kept.2.2.2.1
  | ending pool job began turned free =>
    have taken : Booked e (e.taking pool) [] [] [] := .nothing rfl rfl rfl turned.kept.2.2.2.1
    have retired : Booked ((e.taking pool).concluded job)
        ((e.taking pool).concluded job).retire [] [] [] := by
      refine .nothing rfl rfl rfl ?_
      change ((e.taking pool).concluded job).pool.finish.rejected = _
      rw [Pool.finish_eq]
    have labels : [(e.taking pool).execution job].filterMap Execution.label? =
        ((e.taking pool).execution job).label?.toList := by
      cases label : ((e.taking pool).execution job).label? <;> simp [label]
    rw [executions_workEvents, labels, List.flatMap_singleton]
    exact (taken.trans (booked_concluded (e.taking pool) job)).and_nothing retired
  | outside outside => exact outside.booked

theorem Path.booked {stages : List Stage} (path : Path e stages last) :
    Booked e last (offersOf stages) ((executions (historyOf stages)).flatMap (·.resolution.faults))
      ((executions (historyOf stages)).filterMap Execution.label?) := by
  induction path with
  | rest e => exact .refl e
  | move move path ih =>
    have both := move.moved.booked.trans ih
    rwa [← List.flatMap_append, ← List.filterMap_append, ← executions_append] at both

theorem Moved.calls (moved : e.Moved next events offers) :
    events.filterMap Event.call? = offers.map Offer.call := by
  cases moved with
  | relayed task answer relayed => rfl
  | quiet pool turned => rfl
  | waiting pool job began turned waits => rfl
  | ending pool job began turned free =>
    have same : Event.call? ∘ Offer.replied job.task = fun offer => some offer.call := rfl
    rw [workEvents_eq, List.filterMap_cons_none rfl, List.filterMap_map, same,
      List.filterMap_eq_map']
  | outside outside => rfl

theorem Path.calls {stages : List Stage} (path : Path e stages last) :
    (historyOf stages).filterMap Event.call? = (offersOf stages).map Offer.call := by
  induction path with
  | rest e => rfl
  | move move path ih =>
    rw [historyOf, offersOf, List.flatMap_cons, List.flatMap_cons, List.filterMap_append,
      List.map_append, move.moved.calls]
    exact congrArg _ ih

theorem sum_count_labels (labels : List (Stanza.Kind × Option Verdict)) :
    (Stanza.Kind.all.map fun kind =>
      (Metrics.verdicts.map fun verdict => labels.count (kind, verdict)).sum).sum =
      labels.length := by
  induction labels with
  | nil => rfl
  | cons label rest ih =>
    have once : ∀ label : Stanza.Kind × Option Verdict,
        (Stanza.Kind.all.map fun kind => (Metrics.verdicts.map fun verdict =>
          if label == (kind, verdict) then 1 else 0).sum).sum = 1 := by
      rintro ⟨kind, _ | verdict⟩
      · cases kind <;> rfl
      · cases kind <;> cases verdict <;> rfl
    rw [List.length_cons, ← ih, ← once label]
    simp only [List.count_cons, Stanza.Kind.all, Metrics.verdicts, List.map_cons, List.map_nil,
      List.sum_cons, List.sum_nil]
    omega

theorem length_logged (offers : List Offer) :
    (offers.filterMap Offer.logged?).length =
      (Stanza.Kind.all.map fun kind => offers.countP (Offer.isSubmitted kind)).sum +
        offers.countP Offer.isRejected := by
  induction offers with
  | nil => rfl
  | cons offer rest ih =>
    simp only [Stanza.Kind.all, List.map_cons, List.map_nil, List.sum_cons, List.sum_nil,
      List.countP_cons] at ih ⊢
    cases answer : offer.answer with
    | none => simp [Offer.logged?, Offer.isSubmitted, Offer.isRejected, answer, ih]
    | some admission =>
      rw [List.filterMap_cons_some (b := (offer.task.address, offer.task.stanza))
        (by simp [Offer.logged?, answer]), List.length_cons, ih]
      cases admission <;> cases kind : offer.task.stanza.kind <;>
        simp [Offer.isSubmitted, Offer.isRejected, answer, kind] <;> omega

theorem Reached.told {history : List Event} (reached : Reached history e) {x : Execution}
    (executed : x ∈ executions history) {handle : Nat} (own : x.task.handle = some handle) :
    e.handles[handle]? = some (.settled x.outcome) ∨ e.handles[handle]? = some .taken := by
  have member := mem_executions.1 executed
  have origin := reached.traced.executed x member
  generalize same : x.task = task at origin own
  cases origin with
  | reply cause destination reply sent => cases own
  | outside task admission admitted asked =>
    obtain ⟨known, there, standing⟩ := reached.accounted.standing task admission handle
      (List.mem_filterMap.2 ⟨_, asked, rfl⟩) own
    have closed : (task, x.outcome) ∈ endedAt handle (history.filterMap Event.ending?) :=
      mem_endedAt.2 ⟨List.mem_filterMap.2 ⟨_, member, by rw [Event.ending?, same]⟩, own⟩
    rw [there]
    generalize endedAt handle (history.filterMap Event.ending?) = endings at standing closed
    generalize tasksAt handle e.pool.unfinished = tasks at standing
    cases standing with
    | rejected rejected told => cases closed
    | waiting admitted => cases closed
    | finished admitted outcome told =>
      cases List.mem_singleton.1 closed
      rcases told with rfl | rfl
      · exact .inl rfl
      · exact .inr rfl

theorem unchanged_of_error (e : Engine) :
    (∀ address stanza escalation fault, (e.relay address stanza escalation).1 = .error fault →
      (e.relay address stanza escalation).2 = e) ∧
    ∀ destination reply fault, (sendReply destination reply e).1 = .error fault →
      (sendReply destination reply e).2 = e := by
  constructor
  · intro address stanza escalation fault refused
    unfold relay at refused ⊢
    have offered := e.offered_offer ⟨address, stanza, escalation, some e.handles.length⟩
    generalize e.offer ⟨address, stanza, escalation, some e.handles.length⟩ = answer
      at offered refused ⊢
    obtain ⟨admission, after⟩ := answer
    cases offered with
    | refused stopped => rfl
    | answered admission pool running submitted => cases refused
  · intro destination reply fault refused
    rw [sendReply_eq] at refused ⊢
    have offered := e.offered_offer (replyTask destination reply)
    generalize e.offer (replyTask destination reply) = answer at offered refused ⊢
    obtain ⟨admission, after⟩ := answer
    cases offered with
    | refused stopped => rfl
    | answered admission pool running submitted => cases refused

/-- The books of an engine balance. Every call to relay a stanza is an offer; the log has an
entry for each call that was answered well, and they are as many as were submitted and rejected.
Rejections are counted as the pool counts them, submissions by the kinds of the stanzas that
were started or queued, faults by the kinds of those that routing the tasks had, and latencies
by the outcomes of the tasks that did not crash, which are those that their handles were given.
A call that fails changes nothing. -/
theorem engine_books_balance {start e : Engine} {stages : List Stage} (new : New start)
    (path : Path start stages e) (logs : e.keepsLog = true) :
    let calls := (historyOf stages).filterMap Event.call?
    let offers := offersOf stages
    let executed := executions (historyOf stages)
    calls = offers.map Offer.call ∧
    e.log = offers.filterMap Offer.logged? ∧
    e.log.length = calls.countP (·.2.2.isOk) ∧
    e.log.length = (Stanza.Kind.all.map e.metrics.submitted).sum + e.metrics.rejected ∧
    e.metrics.rejected = e.pool.stats.rejected ∧
    e.metrics.rejected = offers.countP Offer.isRejected ∧
    (∀ kind, e.metrics.submitted kind = offers.countP (Offer.isSubmitted kind)) ∧
    (∀ kind, e.metrics.faults kind =
      (executed.map fun x => x.resolution.faults.countP fun fault => fault.kind = kind).sum) ∧
    (∀ kind verdict, e.metrics.latencies kind verdict =
      executed.countP fun x => x.resolution ≠ .crashed ∧ x.task.stanza.kind = kind ∧
        x.outcome.map Report.verdict = verdict) ∧
    (Stanza.Kind.all.map fun kind =>
      (Metrics.verdicts.map (e.metrics.latencies kind)).sum).sum =
        executed.countP (·.resolution ≠ .crashed) ∧
    (∀ x ∈ executed, ∀ handle, x.task.handle = some handle →
      e.handles[handle]? = some (.settled x.outcome) ∨ e.handles[handle]? = some .taken) ∧
    (∀ address stanza escalation fault, (e.relay address stanza escalation).1 = .error fault →
      (e.relay address stanza escalation).2 = e) ∧
    ∀ destination reply fault, (sendReply destination reply e).1 = .error fault →
      (sendReply destination reply e).2 = e := by
  intro calls offers executed
  obtain ⟨keepsLog, log, submitted, rejected, refused, faults, latencies⟩ := path.booked
  obtain ⟨noLog, noMetrics, settings, pool⟩ := new.blank
  have noRejections : start.pool.rejected = 0 := by
    rw [pool]
    rfl
  simp only [noLog, noMetrics, noRejections, Metrics.zero, ← keepsLog, logs, if_true,
    List.nil_append, Nat.zero_add] at log submitted rejected refused faults latencies
  have made : calls = offers.map Offer.call := path.calls
  have all : e.log.length = (Stanza.Kind.all.map e.metrics.submitted).sum + e.metrics.rejected := by
    rw [log, length_logged, rejected, funext submitted]
  refine ⟨made, log, ?_, all, rejected.trans refused.symm, rejected, submitted, ?_, ?_, ?_, ?_,
    e.unchanged_of_error⟩
  · rw [log, made, List.countP_map, List.length_filterMap_eq_countP]
    refine List.countP_congr fun offer _ => ?_
    cases answer : offer.answer <;>
      simp [Offer.logged?, Offer.call, Offer.result, answer, Except.isOk, Except.toBool]
  · intro kind
    rw [faults, List.countP_flatMap]
    rfl
  · intro kind verdict
    rw [latencies, List.count, List.countP_filterMap]
    refine List.countP_congr fun x _ => ?_
    rw [decide_eq_true_iff, ← label?_eq_some_iff]
    cases x.label? <;> simp
  · rw [show e.metrics.latencies = _ from funext fun kind => funext (latencies kind)]
    refine (sum_count_labels _).trans ?_
    rw [List.length_filterMap_eq_countP]
    exact List.countP_congr fun x _ => by rw [isSome_label?]
  · exact fun x member handle => (path.reached new.reached).told member

theorem engine_books_balance_when_full :
    ∃ start stages e, New start ∧ Path start stages e ∧ e.keepsLog = true ∧
      ((historyOf stages).filterMap Event.call?).countP (·.2.2.isOk) = 3 ∧
      (offersOf stages).countP (Offer.isSubmitted .message) = 2 ∧
      (offersOf stages).countP Offer.isRejected = 1 ∧ e.pool.stats.rejected = 1 ∧
      (executions (historyOf stages)).countP (·.resolution ≠ .crashed) = 1 := by
  -- With a pool of one worker and one place in the queue, a message that is bounced, another one
  -- behind it, and the reply, which finds the queue full, are logged; the reply counts as rejected.
  let alice : BareAddress := ⟨some "alice", "waddle.social"⟩
  let bob : BareAddress := ⟨some "bob", "waddle.social"⟩
  let stanza : Stanza :=
    .message ⟨.chat, some bob.toAddress, some alice.toAddress, none, none, none⟩
  let router : Router := ⟨⟨"waddle.social", false⟩, false, false⟩
  let site : Site := ⟨.empty, ⟨[], none⟩, .empty 0, .empty 0, false, .empty⟩
  let settings : Pool.Settings := ⟨1, 1, 1, 60000⟩
  let e : Engine := empty router Handover.handoff none false true site (.empty settings)
  let once : Engine := (e.relay bob.toAddress stanza (.single .bounce)).2
  let twice : Engine := (once.relay bob.toAddress stanza (.single .ignore)).2
  have launched : Pool.launch true settings = .launched (.empty settings : Pool Job) := rfl
  have new : New e := .new router _ none false true site launched .empty
  have busy : twice.turn.isSome = true := by decide +kernel
  have path := Path.move (.relay bob.toAddress stanza (.single .bounce))
    (.move (.relay bob.toAddress stanza (.single .ignore))
      (.move (.turn (turn_eq_run_one busy)) (.rest (run 1 twice))))
  have logs : (run 1 twice).keepsLog = true := by decide +kernel
  obtain ⟨_, _, calls, _, refused, rejected, submitted, _, _, timed, _⟩ :=
    engine_books_balance new path logs
  refine ⟨e, _, _, new, path, logs, ?_, ?_, ?_, ?_, ?_⟩
  · rw [← calls]
    decide +kernel
  · rw [← submitted]
    decide +kernel
  · rw [← rejected]
    decide +kernel
  · rw [← refused]
    decide +kernel
  · rw [← timed]
    decide +kernel

end Engine
end StanzaDelivery
