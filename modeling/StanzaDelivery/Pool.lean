import StanzaDelivery.Capacity
import StanzaDelivery.Pool.Settings

/-! A bounded pool of workers. Jobs are admitted at once: to a new worker below the core
size, else to the queue, else to an extra worker, else not at all. Nothing runs in the
background: workers wait in `ready` for their turn, and a turn hands out at most one job,
which is then finished or suspended. Time passes only in `pass`. -/

namespace StanzaDelivery

namespace Pool

/-- What a worker does when its turn comes: begin the job that it was made for, go on
with a job that was suspended, or, for the idle worker waiting longest, look into the
queue. -/
inductive Turn (J : Type)
  | first (job : J)
  | resumed (job : J)
  | woken
  deriving DecidableEq, Repr

inductive Admission
  | started
  | queued
  | rejected
  deriving DecidableEq, Repr

def Admission.name : Admission → String
  | .started => "started"
  | .queued => "queued"
  | .rejected => "rejected"

structure Stats where
  workers : Nat
  core : Nat
  max : Nat
  busy : Nat
  queued : Nat
  completed : Nat
  rejected : Nat
  keepAliveSecs : Nat
  deriving DecidableEq, Repr

/-- Jobs completed since the snapshot before, and whether this is the first one. -/
structure Throughput where
  completed : Nat
  first : Bool
  deriving DecidableEq, Repr

end Pool

/-- The counters are kept beside the lists that they count. Those that go down as well
as up are signed: nothing keeps them from going below zero but the pool's own care.
`idle` holds, in waiting order, the time at which each idle worker gives up waiting. -/
structure Pool (J : Type) where
  settings : Pool.Settings
  clock : Nat
  closed : Bool
  workers : Int
  busy : Int
  queued : Int
  completed : Nat
  rejected : Nat
  queue : List J
  ready : List (Pool.Turn J)
  suspended : List J
  idle : List Nat
  snapshot : Option Nat
  deriving DecidableEq, Repr

namespace Pool

variable {J : Type}

def empty (settings : Settings) : Pool J where
  settings := settings
  clock := 0
  closed := false
  workers := 0
  busy := 0
  queued := 0
  completed := 0
  rejected := 0
  queue := []
  ready := []
  suspended := []
  idle := []
  snapshot := none

inductive Launch (J : Type)
  | launched (pool : Pool J)
  | refused (fault : ConfigurationFault)
  | crashed
  deriving Repr

/-- A new pool. `scheduled` says whether there is a scheduler that can run workers. -/
def launch (scheduled : Bool) (settings : Settings) : Launch J :=
  match settings.check with
  | .error cause => .refused (.unusable cause)
  | .ok () =>
    if !scheduled then .refused .noScheduler
    else if settings.queueCapacity.toNat ≤ Capacity.largest then .launched (empty settings)
    else .crashed

def isWoken : Turn J → Bool
  | .woken => true
  | _ => false

/-- Gives the idle worker that waits longest a turn, unless there is none or it has one. -/
def wake (p : Pool J) : Pool J :=
  if p.idle.isEmpty || p.ready.any isWoken then p else { p with ready := p.ready ++ [.woken] }

def spawn (p : Pool J) (job : J) : Pool J :=
  { p with workers := p.workers + 1, ready := p.ready ++ [.first job] }

def countQueued (p : Pool J) : Pool J := { p with queued := p.queued + 1 }

def uncountQueued (p : Pool J) : Pool J := { p with queued := p.queued - 1 }

/-- Puts a job into the queue, if the queue has room for it. -/
def enqueue? (p : Pool J) (job : J) : Option (Pool J) :=
  if p.queue.length < p.settings.queueCapacity.toNat then
    some (wake { p with queue := p.queue ++ [job] })
  else none

def reject (p : Pool J) : Pool J := { p with rejected := p.rejected + 1 }

/-- The admission of a job, or nothing once the pool is closed. A job is counted as queued
before the queue is asked, and the count is taken back if the queue is full. -/
def submit (p : Pool J) (job : J) : Option (Admission × Pool J) :=
  if p.closed then none
  else if p.workers < p.settings.core.toNat then some (.started, p.spawn job)
  else
    match p.countQueued.enqueue? job with
    | some p => some (.queued, p)
    | none =>
      let p := p.countQueued.uncountQueued
      if p.workers < p.settings.max.toNat then some (.started, p.spawn job)
      else some (.rejected, p.reject)

/-- The pool without its head idle worker; the next one waiting gets a turn. -/
def takeIdle (p : Pool J) : Pool J := wake { p with idle := p.idle.tail }

def begin (p : Pool J) : Pool J := { p with busy := p.busy + 1 }

/-- The head idle worker leaves the pool. -/
def leave (p : Pool J) : Pool J := takeIdle { p with workers := p.workers - 1 }

/-- An idle worker's turn: it takes the first queued job, leaves if there is none and
the pool is closed, and goes on waiting otherwise. -/
def wokenTurn (p : Pool J) : Pool J × Option J :=
  if p.idle.isEmpty then (p, none)
  else
    match p.queue with
    | job :: rest => (begin (takeIdle { p with queue := rest }.uncountQueued), some job)
    | [] => if p.closed then (p.leave, none) else (p, none)

/-- The next turn, with the job it hands out, if any worker has a turn. -/
def turn (p : Pool J) : Option (Pool J × Option J) :=
  match p.ready with
  | [] => none
  | .first job :: rest => some (begin { p with ready := rest }, some job)
  | .resumed job :: rest => some ({ p with ready := rest }, some job)
  | .woken :: rest => some (wokenTurn { p with ready := rest })

/-- The job handed out last is done, well or badly. Its worker looks into the queue at
once if no other worker waits for a job; otherwise it waits behind those that do. -/
def finish (p : Pool J) : Pool J :=
  let deadline := p.clock + p.settings.keepAliveMs
  let p := { p with busy := p.busy - 1, completed := p.completed + 1 }
  if p.idle.isEmpty then { p with idle := [deadline], ready := .woken :: p.ready }
  else { p with idle := p.idle ++ [deadline] }

/-- The job handed out last cannot go on for now. -/
def suspend (p : Pool J) (job : J) : Pool J := { p with suspended := p.suspended ++ [job] }

/-- Gives the workers whose suspended jobs may go on a turn each. -/
def resume (p : Pool J) (mayGoOn : J → Bool) : Pool J :=
  { p with
    suspended := p.suspended.filter fun job => !mayGoOn job
    ready := p.ready ++ (p.suspended.filter mayGoOn).map .resumed }

/-- Stops admission. Jobs already admitted still run, and idle workers leave. -/
def close (p : Pool J) : Pool J := wake { p with closed := true }

/-- A worker has waited in vain: it leaves if the pool is above its core size, and waits
anew behind the others if not. -/
def giveUp (p : Pool J) : Pool J :=
  if p.settings.core.toNat < p.workers then { p with workers := p.workers - 1 }
  else { p with idle := p.idle ++ [p.clock + p.settings.keepAliveMs] }

/-- So many workers give up one after the other, each looking at the size of the pool for
itself. -/
def giveUps : (expired : Nat) → Pool J → Pool J
  | 0, p => p
  | n + 1, p => giveUps n p.giveUp

/-- Lets time go by. The idle workers whose deadline has passed give up waiting. -/
def pass (p : Pool J) (ms : Nat) : Pool J :=
  let now := p.clock + ms
  giveUps (p.idle.filter (· ≤ now)).length
    { p with clock := now, idle := p.idle.filter (now < ·) }

def setMaxWorkers (p : Pool J) (n : UInt64) : Except Unusable (Pool J) :=
  let settings := p.settings.withMaxWorkers n
  settings.check.map fun () => { p with settings := settings }

def setKeepAlive (p : Pool J) (ms : Nat) : Pool J :=
  { p with settings := { p.settings with keepAliveMs := ms } }

def stats (p : Pool J) : Stats where
  workers := p.workers.toNat
  core := p.settings.core.toNat
  max := p.settings.max.toNat
  busy := p.busy.toNat
  queued := p.queued.toNat
  completed := p.completed
  rejected := p.rejected
  keepAliveSecs := p.settings.keepAliveSecs

def takeThroughput (p : Pool J) : Throughput × Pool J :=
  (⟨p.completed - p.snapshot.getD 0, p.snapshot.isNone⟩, { p with snapshot := some p.completed })

/-- Closed, and every worker has left. -/
def isOver (p : Pool J) : Bool := p.closed && p.workers == 0

/-- Jobs admitted and not yet begun by the worker that was made for them. -/
def firstJobs (p : Pool J) : List J :=
  p.ready.filterMap fun turn =>
    match turn with
    | .first job => some job
    | _ => none

def resumedJobs (p : Pool J) : List J :=
  p.ready.filterMap fun turn =>
    match turn with
    | .resumed job => some job
    | _ => none

def total (weight : J → Nat) : List J → Nat
  | [] => 0
  | job :: rest => weight job + total weight rest

/-- What is left to do of the jobs that have a turn or a place in the queue. -/
def workload (weight : J → Nat) (p : Pool J) : Nat :=
  total weight p.queue + total weight p.firstJobs + total weight p.resumedJobs

/-- How much there is left to do: a bound on the number of turns until none is left, if
doing a job submits at most as many others as its weight exceeds one. -/
def effort (weight : J → Nat) (p : Pool J) : Nat :=
  4 * p.workload weight + 2 * p.idle.length + p.ready.countP isWoken

end Pool
end StanzaDelivery
