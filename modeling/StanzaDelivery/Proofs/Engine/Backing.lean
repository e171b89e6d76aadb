import StanzaDelivery.Proofs.Engine.Work

/-! Engines with any backing. Besides its sessions, components and escalations an engine calls
whoever verifies accounts, whoever keeps stanzas for accounts that are offline, and whoever keeps
copies. All of these may answer with a fault, and all of them may crash; nobody holds such a crash
up before it has ended the job. The accounts and the stores of a site never crash, and an engine
that is backed by its own site is the engine as it was. -/

namespace StanzaDelivery.Engine

open scoped List

def taking (e : Engine) (pool : Pool Job) : Engine := { e with pool := pool }.showBusy

def retire (e : Engine) : Engine := { e with pool := e.pool.finish }.showBusy

theorem ending_perm {e after : Engine} {pool : Pool Job} {job : Job} {began : Option Job}
    {jobs : List Job} (turned : e.pool.Turned pool (some job) began)
    (intake : pool.Intake jobs after.pool) :
    job :: after.retire.pool.unfinished ~ jobs ++ e.pool.unfinished := by
  have retired : after.retire.pool.unfinished = after.pool.unfinished := Pool.unfinished_finish _
  rw [retired]
  calc
    job :: after.pool.unfinished
    _ ~ job :: (jobs ++ pool.unfinished) := intake.unfinished_perm.cons _
    _ ~ jobs ++ job :: pool.unfinished := List.perm_middle.symm
    _ ~ jobs ++ e.pool.unfinished := turned.unfinished_perm.symm.append_left _

inductive Answer (α : Type)
  | given (answer : Except StorageFault α)
  | crashed

/-- Those who are called are told of the site, which they may change. -/
structure Backing where
  verify : BareAddress → Site → Answer Bool × Site
  receive : Stanza → Site → Answer Unit × Site
  store : Stanza → Bool → Site → Answer Unit × Site

namespace Backing

def own : Backing where
  verify account site := (.given (site.accounts.verify account), site)
  receive stanza site :=
    let (kept, pending) := site.pending.receive stanza
    (.given kept, { site with pending := pending })
  store stanza viewed site :=
    let (kept, site) := site.insert .online stanza viewed
    (.given kept, site)

def handleOffline (b : Backing) (router : Router) (account : BareAddress) (stanza : Stanza)
    (site : Site) : Resolution × Site :=
  match b.verify account site with
  | (.crashed, site) => (.crashed, site)
  | (.given (.error fault), site) =>
    (.reported (.failed (.causedByStorage "account verification failed" fault)), site)
  | (.given (.ok false), site) => (.reported (.failed .noSuchUser), site)
  | (.given (.ok true), site) =>
    if router.keepsOffline then
      match b.receive stanza site with
      | (.crashed, site) => (.crashed, site)
      | (.given (.ok ()), site) => (.reported (.failed .storedOffline), site)
      | (.given (.error fault), site) =>
        (.reported (.failed (.causedByStorage "offline receiver rejected stanza" fault)), site)
    else (.reported (.failed .recipientOffline), site)

def routed (b : Backing) (e : Engine) : Job → Resolution × Site
  | .fresh task =>
    match e.router.policy.aim e.site.registry task.address task.stanza with
    | .nobody => b.handleOffline e.router task.address.bare task.stanza e.site
    | _ => e.routed (.fresh task)
  | .held task targets => e.routed (.held task targets)

/-- Keeps a copy if the engine does in this case, and tells whether that crashed. -/
def keepCopy (b : Backing) (stanza : Stanza) (report : Report) (e : Engine) : Bool × Engine :=
  if e.keepsCopies && !report.contains .storedOffline then
    match b.store stanza true e.site with
    | (.crashed, site) => (true, { e with site := site })
    | (.given _, site) => (false, { e with site := site })
  else (false, e)

/-- The report that a task ends with, unless something crashes while its faults are dealt with.
Then the escalation is not tried. -/
def dealWith (b : Backing) (task : Task) (report : Report) (e : Engine) : Option Report × Engine :=
  if report.hasFaults then
    match b.keepCopy task.stanza report
      { e with metrics := e.metrics.countFaults report.faults } with
    | (true, e) => (none, e)
    | (false, e) =>
      let (ending, e) := task.escalation.tryAll facilities task.stanza report.faults e
      (some (escalated report ending), e)
  else (some report, e)

def conclude (b : Backing) (task : Task) (resolution : Resolution) (e : Engine) : Engine :=
  match resolution with
  | .discarded => complete task none e
  | .crashed => settleHandle task none e
  | .reported report =>
    match b.dealWith task report e with
    | (none, e) => settleHandle task none e
    | (some report, e) => complete task (some report) e

def concluded (b : Backing) (e : Engine) (job : Job) : Engine :=
  b.conclude job.task (b.routed e job).1 { e with site := (b.routed e job).2 }

def outcome (b : Backing) (e : Engine) (job : Job) : Option Report :=
  match b.routed e job with
  | (.reported report, site) => (b.dealWith job.task report { e with site := site }).1
  | (.discarded, _) => none
  | (.crashed, _) => none

def workTurn (b : Backing) (job : Job) (e : Engine) : Engine :=
  if e.waits job then { e with pool := e.pool.suspend (.held job.task (e.targetsFor job)) }
  else (b.concluded e job).retire

def turn (b : Backing) (e : Engine) : Option Engine :=
  match e.pool.turn with
  | none => none
  | some (pool, none) => some { e with pool := pool }
  | some (pool, some job) => some (b.workTurn job (e.taking pool))

theorem handleOffline_own (router : Router) (account : BareAddress) (stanza : Stanza)
    (site : Site) :
    own.handleOffline router account stanza site =
      (.reported (router.handleOffline account stanza site).1,
        (router.handleOffline account stanza site).2) := by
  unfold handleOffline Router.handleOffline own
  dsimp only
  cases site.accounts.verify account with
  | error fault => rfl
  | ok known =>
    cases known with
    | false => rfl
    | true =>
      cases router.keepsOffline with
      | false => rfl
      | true =>
        simp only [if_true]
        cases (site.pending.receive stanza).1 <;> rfl

theorem routed_own (e : Engine) (job : Job) : own.routed e job = e.routed job := by
  cases job with
  | held task targets => rfl
  | fresh task =>
    rw [routed]
    split
    next aim =>
      rw [handleOffline_own, Engine.routed, Router.resolve, aim]
      rfl
    next => rfl

theorem keepCopy_own (stanza : Stanza) (report : Report) (e : Engine) :
    own.keepCopy stanza report e = (false, Engine.keepCopy stanza report e) := by
  unfold keepCopy Engine.keepCopy
  split <;> rfl

theorem dealWith_own (task : Task) (report : Report) (e : Engine) :
    own.dealWith task report e =
      (some (Engine.dealWith task report e).1, (Engine.dealWith task report e).2) := by
  rw [dealWith, dealWith_eq, keepCopy_own]
  split <;> rfl

theorem concluded_own (e : Engine) (job : Job) : own.concluded e job = e.concluded job := by
  rw [concluded, Engine.concluded, routed_own]
  cases (e.routed job).1 with
  | discarded => rfl
  | crashed => rfl
  | reported report => simp only [conclude, dealWith_own, Engine.conclude]

theorem outcome_own (e : Engine) (job : Job) :
    own.outcome e job =
      outcomeOf job.task (e.routed job).1 { e with site := (e.routed job).2 } := by
  rw [outcome, routed_own]
  rcases e.routed job with ⟨resolution, site⟩
  cases resolution with
  | discarded => rfl
  | crashed => rfl
  | reported report => simp only [dealWith_own, outcomeOf]

theorem turn_own (e : Engine) : own.turn e = e.turn := by
  unfold turn Engine.turn
  rcases e.pool.turn with _ | ⟨pool, _ | job⟩
  · rfl
  · rfl
  · simp only [workTurn, Engine.workTurn, work_eq, concluded_own, taking]
    cases waits : ({ e with pool := pool }.showBusy).waits job <;> rfl

variable (b : Backing)

theorem keepCopy_eq (stanza : Stanza) (report : Report) (e : Engine) :
    ∃ site, (b.keepCopy stanza report e).2 = { e with site := site } := by
  unfold keepCopy
  split
  · rcases b.store stanza true e.site with ⟨_ | _, site⟩ <;> exact ⟨site, rfl⟩
  · exact ⟨e.site, rfl⟩

def Replies (e after : Engine) (replies : List Job) : Prop :=
  (∀ job ∈ replies, ∃ destination reply, job = .fresh (replyTask destination reply)) ∧
    e.pool.Intake replies after.pool

theorem replies_nil {e after : Engine} (same : after.pool = e.pool) : Replies e after [] := by
  refine ⟨List.forall_mem_nil _, ?_⟩
  rw [same]
  exact .none

structure Ended (e after : Engine) (task : Task) (outcome : Option Report) : Prop where
  router : after.router = e.router
  handles : after.handles = settledHandles task outcome e.handles
  intake : ∃ replies, Replies e after replies

theorem dealWith_kept (task : Task) (report : Report) (e : Engine) :
    (b.dealWith task report e).2.router = e.router ∧
      (b.dealWith task report e).2.handles = e.handles ∧
      ∃ replies, Replies e (b.dealWith task report e).2 replies := by
  rw [dealWith]
  split
  · obtain ⟨site, same⟩ :=
      b.keepCopy_eq task.stanza report { e with metrics := e.metrics.countFaults report.faults }
    rcases copied : b.keepCopy task.stanza report
      { e with metrics := e.metrics.countFaults report.faults } with ⟨crashed, after⟩
    rw [copied] at same
    dsimp only at same
    subst same
    cases crashed with
    | true => exact ⟨rfl, rfl, [], replies_nil rfl⟩
    | false =>
      have kept := kept_tryAll task.escalation task.stanza report.faults
        { e with metrics := e.metrics.countFaults report.faults, site := site }
      obtain ⟨replies, sent, intake⟩ := takesIn_tryAll task.escalation task.stanza report.faults
        { e with metrics := e.metrics.countFaults report.faults, site := site }
      exact ⟨kept.router, kept.handles, replies, fun _ member => reply_of_sent sent member,
        intake⟩
  · exact ⟨rfl, rfl, [], replies_nil rfl⟩

theorem ended_concluded (e : Engine) (job : Job) :
    Ended e (b.concluded e job) job.task (b.outcome e job) := by
  rw [concluded, outcome]
  rcases b.routed e job with ⟨resolution, site⟩
  cases resolution with
  | discarded =>
    rw [conclude, complete, settleHandle_eq]
    exact ⟨rfl, rfl, [], replies_nil rfl⟩
  | crashed =>
    rw [conclude, settleHandle_eq]
    exact ⟨rfl, rfl, [], replies_nil rfl⟩
  | reported report =>
    have kept := b.dealWith_kept job.task report { e with site := site }
    dsimp only [conclude]
    generalize b.dealWith job.task report { e with site := site } = dealt at kept ⊢
    obtain ⟨outcome, after⟩ := dealt
    obtain ⟨router, handles, intake⟩ := kept
    dsimp only at router handles intake
    cases outcome with
    | none =>
      dsimp only
      rw [settleHandle_eq, handles]
      exact ⟨router, rfl, intake⟩
    | some told =>
      dsimp only [complete]
      rw [settleHandle_eq]
      dsimp only
      rw [handles]
      exact ⟨router, rfl, intake⟩

theorem pool_turn_of_turn {b : Backing} {e next : Engine} (turn : b.turn e = some next) :
    (∃ pool, e.pool.turn = some (pool, none) ∧ e.pool.Turned pool none none ∧
      next = { e with pool := pool }) ∨
    ∃ pool job began, e.pool.turn = some (pool, some job) ∧
      e.pool.Turned pool (some job) began ∧
      (e.waits job = true ∧
        next = { e.taking pool with
          pool := pool.suspend (.held job.task (e.targetsFor job)) } ∨
      e.waits job = false ∧ next = (b.concluded (e.taking pool) job).retire) := by
  unfold Backing.turn at turn
  cases taken : e.pool.turn with
  | none => simp [taken] at turn
  | some result =>
    obtain ⟨pool, out⟩ := result
    have turned := Pool.turned_of_turn taken
    cases out with
    | none =>
      simp only [taken, Option.some.injEq] at turn
      subst turn
      have idle : e.pool.beginning? = none := by
        generalize began : e.pool.beginning? = found at turned
        cases turned <;> rfl
      rw [idle] at turned
      exact .inl ⟨pool, rfl, turned, rfl⟩
    | some job =>
      simp only [taken, Option.some.injEq, workTurn] at turn
      subst turn
      have same : (e.taking pool).waits job = e.waits job := rfl
      rw [same]
      refine .inr ⟨pool, job, _, rfl, turned, ?_⟩
      cases waits : e.waits job with
      | true => exact .inl ⟨rfl, rfl⟩
      | false => exact .inr ⟨rfl, rfl⟩

end Backing
end StanzaDelivery.Engine
