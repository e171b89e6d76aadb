import StanzaDelivery.Engine
import StanzaDelivery.Proofs.Escalation.Deeds
import StanzaDelivery.Proofs.Pool.Intake

/-! What it means to work on a job. The job is routed to the targets that it has; its faults
are dealt with, which leaves everything alone but the stores, the books and what the pool
takes in; and its outcome goes to its own handle. -/

namespace StanzaDelivery.Engine

def Job.task : Job → Task
  | .fresh task => task
  | .held task _ => task

inductive Offered (e : Engine) (task : Task) : Option Pool.Admission → Engine → Prop
  | refused (stopped : e.running = false ∨ e.pool.closed = true) : Offered e task none e
  | answered (admission : Pool.Admission) (pool : Pool Job) (running : e.running = true)
      (submitted : e.pool.Submitted (.fresh task) admission pool) :
      Offered e task (some admission) { e with
        pool := pool
        log := e.logged task
        metrics := countAdmission admission task.stanza.kind e.metrics }

theorem offered_offer (e : Engine) (task : Task) :
    e.Offered task (e.offer task).1 (e.offer task).2 := by
  rw [offer]
  by_cases running : e.running = true
  · rw [if_pos running]
    cases asked : e.pool.submit (.fresh task) with
    | none => exact .refused (.inr ((e.pool.submit_eq_none_iff _).1 asked))
    | some answer => exact .answered answer.1 answer.2 running (Pool.submitted_of_submit asked)
  · rw [if_neg running]
    exact .refused (.inl (by simpa using running))

/-- The sessions to attempt for a job, if it is for sessions. A job that waited goes on with
those that it found then. -/
def targetsFor (e : Engine) : Job → List Handover.Target
  | .held _ targets => targets
  | .fresh task =>
    match e.router.policy.aim e.site.registry task.address task.stanza with
    | .sessions ids => Router.targets e.site ids
    | _ => []

def waits (e : Engine) : Job → Bool
  | .held _ _ => false
  | .fresh task => e.mustWait (e.targetsFor (.fresh task))

def routed (e : Engine) : Job → Resolution × Site
  | .fresh task => e.router.resolve e.deliverer task.address task.stanza e.site
  | .held task targets =>
    let (report, site) := Router.handToSessions e.deliverer targets task.stanza e.site
    (.reported report, site)

def concluded (e : Engine) (job : Job) : Engine :=
  conclude job.task (e.routed job).1 { e with site := (e.routed job).2 }

theorem work_eq (e : Engine) (job : Job) :
    work job e =
      if e.waits job then (some (.held job.task (e.targetsFor job)), e)
      else (none, e.concluded job) := by
  cases job with
  | held task targets => rfl
  | fresh task =>
    rw [concluded, work, waits, targetsFor, routed, Router.resolve]
    cases e.router.policy.aim e.site.registry task.address task.stanza with
    | sessions ids => rfl
    | nowhere => simp [mustWait, Job.task]
    | refused fault => simp [mustWait, Job.task]
    | component domain => simp [mustWait, Job.task]
    | nobody => simp [mustWait, Job.task]

/-- What an escalation leaves as it is. -/
structure Kept (e after : Engine) : Prop where
  router : after.router = e.router
  deliverer : after.deliverer = e.deliverer
  gate : after.gate = e.gate
  keepsCopies : after.keepsCopies = e.keepsCopies
  keepsLog : after.keepsLog = e.keepsLog
  running : after.running = e.running
  registry : after.site.registry = e.site.registry
  handles : after.handles = e.handles

theorem Kept.refl (e : Engine) : e.Kept e := ⟨rfl, rfl, rfl, rfl, rfl, rfl, rfl, rfl⟩

theorem Kept.trans {e f g : Engine} (first : e.Kept f) (second : f.Kept g) : e.Kept g :=
  ⟨second.router.trans first.router, second.deliverer.trans first.deliverer,
    second.gate.trans first.gate, second.keepsCopies.trans first.keepsCopies,
    second.keepsLog.trans first.keepsLog, second.running.trans first.running,
    second.registry.trans first.registry, second.handles.trans first.handles⟩

theorem registry_insert (site : Site) (shelf : Shelf) (stanza : Stanza) (viewed : Bool) :
    (site.insert shelf stanza viewed).2.registry = site.registry := by
  unfold Site.insert Site.withStore
  cases shelf with
  | pending => rfl
  | online => cases site.sharesStore <;> rfl

def replyTask (destination : Address) (reply : Stanza) : Task :=
  ⟨destination, reply, .single .ignore, none⟩

theorem sendReply_eq (destination : Address) (reply : Stanza) (e : Engine) :
    sendReply destination reply e =
      (match (e.offer (replyTask destination reply)).1 with
        | none => .error stopped
        | some _ => .ok (),
        (e.offer (replyTask destination reply)).2) := by
  rw [sendReply, replyTask]
  generalize e.offer ⟨destination, reply, .single .ignore, none⟩ = answer
  obtain ⟨admission, after⟩ := answer
  cases admission <;> rfl

theorem Offered.kept {e after : Engine} {task : Task} {admission : Option Pool.Admission}
    (offered : e.Offered task admission after) : e.Kept after := by
  cases offered with
  | refused stopped => exact .refl _
  | answered admission pool running submitted => exact ⟨rfl, rfl, rfl, rfl, rfl, rfl, rfl, rfl⟩

theorem kept_sendReply (destination : Address) (reply : Stanza) (e : Engine) :
    e.Kept (sendReply destination reply e).2 := by
  rw [sendReply_eq]
  exact (e.offered_offer _).kept

theorem kept_keepPending (stanza : Stanza) (e : Engine) : e.Kept (keepPending stanza e).2 :=
  ⟨rfl, rfl, rfl, rfl, rfl, rfl, registry_insert e.site .pending stanza false, rfl⟩

theorem kept_tryAll (escalation : Escalation) (stanza : Stanza) (faults : List Fault)
    (e : Engine) : e.Kept (escalation.tryAll facilities stanza faults e).2 := by
  refine Escalation.tryAll_preserves ?_ ?_ ?_ escalation (.refl e)
  · intro destination reply call f kept
    exact kept.trans (kept_sendReply destination reply f)
  · intro f kept
    exact kept.trans (kept_keepPending stanza f)
  · intro f kept
    exact kept.trans ⟨rfl, rfl, rfl, rfl, rfl, rfl, rfl, rfl⟩

theorem keepCopy_kept (stanza : Stanza) (report : Report) (e : Engine) :
    e.Kept (keepCopy stanza report e) ∧ (keepCopy stanza report e).pool = e.pool := by
  rw [keepCopy]
  split
  · exact ⟨⟨rfl, rfl, rfl, rfl, rfl, rfl, registry_insert e.site .online stanza true, rfl⟩, rfl⟩
  · exact ⟨.refl e, rfl⟩

def faced (task : Task) (report : Report) (e : Engine) : Engine :=
  keepCopy task.stanza report { e with metrics := e.metrics.countFaults report.faults }

theorem kept_faced (task : Task) (report : Report) (e : Engine) :
    e.Kept (faced task report e) ∧ (faced task report e).pool = e.pool := by
  obtain ⟨kept, pool⟩ :=
    keepCopy_kept task.stanza report { e with metrics := e.metrics.countFaults report.faults }
  have counted : e.Kept { e with metrics := e.metrics.countFaults report.faults } :=
    ⟨rfl, rfl, rfl, rfl, rfl, rfl, rfl, rfl⟩
  exact ⟨counted.trans kept, pool⟩

theorem dealWith_eq (task : Task) (report : Report) (e : Engine) :
    dealWith task report e =
      if report.hasFaults then
        let tried := task.escalation.tryAll facilities task.stanza report.faults
          (faced task report e)
        (escalated report tried.1, tried.2)
      else (report, e) := rfl

def outcomeOf (task : Task) (resolution : Resolution) (e : Engine) : Option Report :=
  match resolution with
  | .reported report => some (dealWith task report e).1
  | .discarded => none
  | .crashed => none

def dealt (task : Task) (resolution : Resolution) (e : Engine) : Engine :=
  match resolution with
  | .reported report => (dealWith task report e).2
  | .discarded => e
  | .crashed => e

def dealings (task : Task) (resolution : Resolution) (e : Engine) : List Escalation.Deed :=
  match resolution with
  | .reported report =>
    if report.hasFaults then
      Escalation.deeds facilities task.stanza report.faults task.escalation (faced task report e)
    else []
  | .discarded => []
  | .crashed => []

theorem kept_dealt (task : Task) (resolution : Resolution) (e : Engine) :
    e.Kept (dealt task resolution e) := by
  cases resolution with
  | discarded => exact .refl e
  | crashed => exact .refl e
  | reported report =>
    rw [dealt, dealWith_eq]
    split
    · exact (kept_faced task report e).1.trans (kept_tryAll _ _ _ _)
    · exact .refl e

theorem dealings_fit (task : Task) (resolution : Resolution) (e : Engine) :
    (dealings task resolution e).countP Escalation.Deed.isSent ≤ task.escalation.bounces ∧
      ∀ deed ∈ dealings task resolution e,
        ∃ report, resolution = .reported report ∧ deed.Fits task.stanza report.faults := by
  cases resolution with
  | discarded => exact ⟨Nat.zero_le _, List.forall_mem_nil _⟩
  | crashed => exact ⟨Nat.zero_le _, List.forall_mem_nil _⟩
  | reported report =>
    rw [dealings]
    split
    · obtain ⟨few, fit⟩ := Escalation.deeds_fit facilities task.stanza report.faults
        task.escalation (faced task report e)
      exact ⟨few, fun deed done => ⟨report, rfl, fit deed done⟩⟩
    · exact ⟨Nat.zero_le _, List.forall_mem_nil _⟩

def replyJob? : Escalation.Deed → Option Job
  | .sent destination reply (.ok ()) => some (.fresh (replyTask destination reply))
  | _ => none

theorem replyJob?_eq_some {deed : Escalation.Deed} {job : Job} (reply : replyJob? deed = some job) :
    ∃ destination stanza, deed = .sent destination stanza (.ok ()) ∧
      job = .fresh (replyTask destination stanza) := by
  unfold replyJob? at reply
  split at reply
  next destination stanza =>
    cases reply
    exact ⟨destination, stanza, rfl, rfl⟩
  next => cases reply

/-- What the engine has taken in since its pool was this one are replies among the deeds. -/
def TakesIn (pool : Pool Job) (deeds : List Escalation.Deed) (e : Engine) : Prop :=
  ∃ jobs, jobs.Sublist (deeds.filterMap replyJob?) ∧ pool.Intake jobs e.pool

theorem TakesIn.deed {pool : Pool Job} {deeds : List Escalation.Deed} {e after : Engine}
    (taken : TakesIn pool deeds e) (deed : Escalation.Deed) (same : after.pool = e.pool) :
    TakesIn pool (deeds ++ [deed]) after := by
  obtain ⟨jobs, known, intake⟩ := taken
  refine ⟨jobs, known.trans ((List.sublist_append_left _ _).filterMap _), ?_⟩
  rwa [same]

theorem TakesIn.sendReply {pool : Pool Job} {deeds : List Escalation.Deed} {e : Engine}
    (taken : TakesIn pool deeds e) (destination : Address) (reply : Stanza) :
    TakesIn pool (deeds ++ [.sent destination reply (sendReply destination reply e).1])
      (sendReply destination reply e).2 := by
  rw [sendReply_eq]
  have offered := e.offered_offer (replyTask destination reply)
  generalize e.offer (replyTask destination reply) = answer at offered ⊢
  obtain ⟨admission, after⟩ := answer
  cases offered with
  | refused stopped => exact taken.deed _ rfl
  | answered admission pool running submitted =>
    obtain ⟨jobs, known, intake⟩ := taken
    refine ⟨_, ?_, intake.submit submitted⟩
    rw [List.filterMap_append]
    split
    · exact known.trans (List.sublist_append_left _ _)
    · exact known.append (.refl _)

theorem takesIn_tryAll (escalation : Escalation) (stanza : Stanza) (faults : List Fault)
    (e : Engine) :
    TakesIn e.pool (Escalation.deeds facilities stanza faults escalation e)
      (escalation.tryAll facilities stanza faults e).2 := by
  have spends : (facilities.recorded).Spends stanza faults
      fun _ recorded => TakesIn e.pool recorded.2 recorded.1 := by
    refine ⟨?_, ?_, ?_, fun _ _ same => same⟩
    · rintro destination reply call _ ⟨f, deeds⟩ taken
      exact taken.sendReply destination reply
    · rintro _ ⟨f, deeds⟩ taken
      exact taken.deed _ rfl
    · rintro _ ⟨f, deeds⟩ taken
      exact taken.deed _ rfl
  exact Escalation.deeds_spend spends escalation e ⟨[], .slnil, .none⟩

theorem intake_dealt (task : Task) (resolution : Resolution) (e : Engine) :
    TakesIn e.pool (dealings task resolution e) (dealt task resolution e) := by
  cases resolution with
  | discarded => exact ⟨[], .slnil, .none⟩
  | crashed => exact ⟨[], .slnil, .none⟩
  | reported report =>
    rw [dealt, dealings, dealWith_eq]
    split
    · rw [← (kept_faced task report e).2]
      exact takesIn_tryAll task.escalation task.stanza report.faults (faced task report e)
    · exact ⟨[], .slnil, .none⟩

theorem reply_of_sent {deeds : List Escalation.Deed} {replies : List Job} {job : Job}
    (sent : replies.Sublist (deeds.filterMap replyJob?)) (member : job ∈ replies) :
    ∃ destination reply, job = .fresh (replyTask destination reply) := by
  obtain ⟨deed, _, found⟩ := List.mem_filterMap.1 (sent.subset member)
  obtain ⟨destination, stanza, _, same⟩ := replyJob?_eq_some found
  exact ⟨destination, stanza, same⟩

def settledHandles (task : Task) (outcome : Option Report) (handles : List Handle) :
    List Handle :=
  match task.handle with
  | none => handles
  | some handle => handles.modify handle fun _ => .settled outcome

theorem length_settledHandles (task : Task) (outcome : Option Report) (handles : List Handle) :
    (settledHandles task outcome handles).length = handles.length := by
  unfold settledHandles
  split
  · rfl
  · exact List.length_modify ..

theorem settleHandle_eq (task : Task) (outcome : Option Report) (e : Engine) :
    settleHandle task outcome e =
      { e with handles := settledHandles task outcome e.handles } := by
  unfold settleHandle settledHandles
  cases task.handle <;> rfl

theorem conclude_eq (task : Task) (resolution : Resolution) (e : Engine) :
    ∃ metrics, conclude task resolution e = { dealt task resolution e with
      metrics := metrics
      handles := settledHandles task (outcomeOf task resolution e) e.handles } := by
  have same := (kept_dealt task resolution e).handles
  cases resolution with
  | discarded => exact ⟨_, settleHandle_eq ..⟩
  | crashed => exact ⟨_, settleHandle_eq ..⟩
  | reported report =>
    refine ⟨(dealWith task report e).2.metrics.countLatency task.stanza.kind
      (some (dealWith task report e).1.verdict), ?_⟩
    simp only [conclude, complete, settleHandle_eq]
    rw [← same]
    rfl

end StanzaDelivery.Engine
