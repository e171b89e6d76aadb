import StanzaDelivery.Engine.Metrics
import StanzaDelivery.Escalation
import StanzaDelivery.Pool
import StanzaDelivery.Routing.Router

/-! The engine that relays stanzas. A relay request is admitted to the pool at once and
carried out when a worker's turn comes: the stanza is routed, and if that had faults, a
copy is kept where copies are kept and the request's escalation is tried. Error replies
are relay requests of the engine's own. Deliveries may have to wait at a gate; such a
request is suspended with the sessions that it looked at. -/

namespace StanzaDelivery

namespace Engine

/-- A relay request. A request without a handle has nobody waiting for its outcome. -/
structure Task where
  address : Address
  stanza : Stanza
  escalation : Escalation
  handle : Option Nat
  deriving Repr

/-- A task before its first turn, or one that waits at the gate with its targets. -/
inductive Job
  | fresh (task : Task)
  | held (task : Task) (targets : List Handover.Target)
  deriving Repr

/-- What is known of the outcome of a relay request. An outcome can be taken once. -/
inductive Handle
  | pending
  | settled (outcome : Option Report)
  | taken
  deriving DecidableEq, Repr

def stopped : Fault := .serviceUnavailable "relay engine stopped"

def escalationFailed (fault : Fault) : Fault := .causedBy "failure strategy failed" fault

def escalationCrashed : Fault := .failed "failure strategy panicked"

end Engine

structure Engine where
  router : Router
  deliverer : Handover.Deliverer
  /-- Whether the gate is open, if deliveries wait at one. -/
  gate : Option Bool
  /-- Copies of stanzas whose delivery had faults are kept. -/
  keepsCopies : Bool
  /-- Admitted and rejected relay requests are logged. -/
  keepsLog : Bool
  site : Site
  pool : Pool Engine.Job
  running : Bool
  log : List (Address × Stanza)
  notes : List (Stanza × List Fault)
  metrics : Metrics
  handles : List Engine.Handle

namespace Engine

def countAdmission (admission : Pool.Admission) (kind : Stanza.Kind) (m : Metrics) : Metrics :=
  match admission with
  | .rejected => m.countRejected
  | _ => m.countSubmitted kind

def logged (e : Engine) (task : Task) : List (Address × Stanza) :=
  if e.keepsLog then e.log ++ [(task.address, task.stanza)] else e.log

/-- Offers a task to the pool. An engine that has stopped takes none. -/
def offer (e : Engine) (task : Task) : Option Pool.Admission × Engine :=
  if e.running then
    match e.pool.submit (.fresh task) with
    | none => (none, e)
    | some (admission, pool) =>
      (some admission,
        { e with
          pool := pool
          log := e.logged task
          metrics := countAdmission admission task.stanza.kind e.metrics })
  else (none, e)

/-- The handle of a request just admitted; a rejected one has no outcome to wait for. -/
def handleFor : Pool.Admission → Handle
  | .rejected => .settled none
  | _ => .pending

/-- Relays a stanza, and gives the number of the request's handle. -/
def relay (e : Engine) (address : Address) (stanza : Stanza) (escalation : Escalation) :
    Except Fault Nat × Engine :=
  match e.offer ⟨address, stanza, escalation, some e.handles.length⟩ with
  | (none, e) => (.error stopped, e)
  | (some admission, e) =>
    (.ok e.handles.length, { e with handles := e.handles ++ [handleFor admission] })

/-- Relays an error reply, for whose own faults nothing is done. -/
def sendReply (address : Address) (stanza : Stanza) (e : Engine) : Except Fault Unit × Engine :=
  match e.offer ⟨address, stanza, .single .ignore, none⟩ with
  | (none, e) => (.error stopped, e)
  | (some _, e) => (.ok (), e)

def keepPending (stanza : Stanza) (e : Engine) : Except StorageFault Unit × Engine :=
  let (kept, site) := e.site.insert .pending stanza false
  (kept, { e with site := site })

def facilities : Escalation.Facilities Engine where
  send := sendReply
  keep := keepPending
  note := fun stanza faults e => { e with notes := e.notes ++ [(stanza, faults)] }

/-- Keeps a copy of a stanza whose delivery had faults, marked as viewed, unless it is
kept for later already. Failing to keep it changes nothing else. -/
def keepCopy (stanza : Stanza) (report : Report) (e : Engine) : Engine :=
  if e.keepsCopies && !report.contains .storedOffline then
    { e with site := (e.site.insert .online stanza true).2 }
  else e

/-- What becomes of a report when its faults have been escalated. -/
def escalated (report : Report) : Escalation.Ending → Report
  | .done => report
  | .fault fault => .failed (escalationFailed fault)
  | .crashed => .failed escalationCrashed

/-- The report that a task ends with, after its faults have been dealt with. -/
def dealWith (task : Task) (report : Report) (e : Engine) : Report × Engine :=
  if report.hasFaults then
    let counted := { e with metrics := e.metrics.countFaults report.faults }
    let (ending, e) := task.escalation.tryAll facilities task.stanza report.faults
      (keepCopy task.stanza report counted)
    (escalated report ending, e)
  else (report, e)

def settleHandle (task : Task) (outcome : Option Report) (e : Engine) : Engine :=
  match task.handle with
  | none => e
  | some handle => { e with handles := e.handles.modify handle fun _ => .settled outcome }

/-- Ends a task that came to an outcome, whose latency is recorded. -/
def complete (task : Task) (outcome : Option Report) (e : Engine) : Engine :=
  settleHandle task outcome
    { e with metrics := e.metrics.countLatency task.stanza.kind (outcome.map Report.verdict) }

/-- Ends a task whose routing came to this; a crash leaves no outcome and no latency. -/
def conclude (task : Task) (resolution : Resolution) (e : Engine) : Engine :=
  match resolution with
  | .discarded => complete task none e
  | .crashed => settleHandle task none e
  | .reported report =>
    let (report, e) := dealWith task report e
    complete task (some report) e

def handOver (task : Task) (targets : List Handover.Target) (e : Engine) : Engine :=
  let (report, site) := Router.handToSessions e.deliverer targets task.stanza e.site
  conclude task (.reported report) { e with site := site }

def mustWait (e : Engine) (targets : List Handover.Target) : Bool :=
  e.gate = some false && targets.any (·.eligible)

/-- Works on a job, and gives it back if it has to wait. -/
def work (job : Job) (e : Engine) : Option Job × Engine :=
  match job with
  | .held task targets => (none, handOver task targets e)
  | .fresh task =>
    match e.router.policy.aim e.site.registry task.address task.stanza with
    | .sessions ids =>
      let targets := Router.targets e.site ids
      if e.mustWait targets then (some (.held task targets), e)
      else (none, handOver task targets e)
    | aim =>
      let (resolution, site) :=
        e.router.carryOut e.deliverer aim task.address task.stanza e.site
      (none, conclude task resolution { e with site := site })

def showBusy (e : Engine) : Engine :=
  { e with metrics := e.metrics.setBusy e.pool.busy.toNat }

/-- Works on the job that the pool handed out. -/
def workTurn (job : Job) (e : Engine) : Engine :=
  match work job e.showBusy with
  | (none, e) => { e with pool := e.pool.finish }.showBusy
  | (some held, e) => { e with pool := e.pool.suspend held }

/-- Takes the next turn, if there is one. -/
def turn (e : Engine) : Option Engine :=
  match e.pool.turn with
  | none => none
  | some (pool, none) => some { e with pool := pool }
  | some (pool, some job) => some (workTurn job { e with pool := pool })

/-- Takes up to so many turns. -/
def run : (turns : Nat) → Engine → Engine
  | 0, e => e
  | n + 1, e =>
    match e.turn with
    | none => e
    | some next => run n next

/-- One for the job itself and one for each reply that it can send. -/
def weight : Job → Nat
  | .fresh task => 1 + task.escalation.bounces
  | .held task _ => 1 + task.escalation.bounces

/-- Takes turns until none is left. -/
def exhaust (e : Engine) : Engine := run (e.pool.effort weight) e

/-- Takes all turns. Then those workers give up waiting whose time is up without any time going
by, since no keep-alive was in force when they became idle. -/
def settle (e : Engine) : Engine :=
  let rested := e.exhaust
  { rested with pool := rested.pool.pass 0 }

def empty (router : Router) (deliverer : Handover.Deliverer) (gate : Option Bool)
    (keepsCopies keepsLog : Bool) (site : Site) (pool : Pool Job) : Engine where
  router := router
  deliverer := deliverer
  gate := gate
  keepsCopies := keepsCopies
  keepsLog := keepsLog
  site := site
  pool := pool
  running := true
  log := []
  notes := []
  metrics := .zero
  handles := []

/-- The outcome behind a handle, which is taken if it is settled. -/
def takeOutcome (e : Engine) (handle : Nat) : Option Handle × Engine :=
  match e.handles[handle]? with
  | some (.settled outcome) =>
    (some (.settled outcome), { e with handles := e.handles.set handle .taken })
  | known => (known, e)

/-- Opens or shuts the gate, and settles. -/
def setGate (e : Engine) (isOpen : Bool) : Engine :=
  let e := { e with gate := e.gate.map fun _ => isOpen }
  if isOpen then { e with pool := e.pool.resume fun _ => true }.settle else e.settle

/-- Settles, lets the time go by, and settles again. -/
def pass (e : Engine) (ms : Nat) : Engine :=
  let rested := e.settle
  { rested with pool := rested.pool.pass ms }.settle

/-- Takes no more requests. Those admitted are still carried out. -/
def stop (e : Engine) : Engine := { e with running := false, pool := e.pool.close }

def resolve (e : Engine) (address : Address) (stanza : Stanza) : Resolution × Engine :=
  let (resolution, site) := e.router.resolve e.deliverer address stanza e.site
  (resolution, { e with site := site })

end Engine
end StanzaDelivery
