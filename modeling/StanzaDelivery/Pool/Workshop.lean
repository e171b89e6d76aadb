import StanzaDelivery.Pool

/-! A pool at work on jobs of three kinds: those that end at once, those that fail, and
those that wait until they are opened. Jobs are numbered in the order of submission. -/

namespace StanzaDelivery

namespace Workshop

inductive Mode
  | instant
  | gated
  | failing
  deriving DecidableEq, Repr

/-- How far a job has come: submitted, begun, ended one way or the other, or never to
begin because it was not admitted. -/
inductive Status
  | waiting
  | running
  | done
  | failed
  | dropped
  deriving DecidableEq, Repr

structure Job where
  mode : Mode
  opened : Bool
  status : Status
  deriving DecidableEq, Repr

inductive Submission
  | admitted (admission : Pool.Admission)
  | refused
  deriving DecidableEq, Repr

end Workshop

/-- `released` says that the pool was let go; its workers still finish their jobs. -/
structure Workshop where
  pool : Pool Nat
  jobs : List Workshop.Job
  released : Bool
  deriving DecidableEq, Repr

namespace Workshop

def ofPool (pool : Pool Nat) : Workshop := ⟨pool, [], false⟩

def job? (w : Workshop) (id : Nat) : Option Job := w.jobs[id]?

def setStatus (w : Workshop) (id : Nat) (status : Status) : Workshop :=
  { w with jobs := w.jobs.modify id fun job => { job with status := status } }

/-- Submits a new job, whose number is the count of jobs before it. -/
def submit (w : Workshop) (mode : Mode) : Submission × Workshop :=
  match w.pool.submit w.jobs.length with
  | none => (.refused, { w with jobs := w.jobs ++ [⟨mode, false, .dropped⟩] })
  | some (.rejected, pool) =>
    (.admitted .rejected, { w with pool := pool, jobs := w.jobs ++ [⟨mode, false, .dropped⟩] })
  | some (admission, pool) =>
    (.admitted admission, { w with pool := pool, jobs := w.jobs ++ [⟨mode, false, .waiting⟩] })

/-- Works on the job that the pool handed out. -/
def work (w : Workshop) (id : Nat) : Workshop :=
  match w.job? id with
  | some ⟨.gated, false, _⟩ => { w.setStatus id .running with pool := w.pool.suspend id }
  | some ⟨.failing, _, _⟩ => { w.setStatus id .failed with pool := w.pool.finish }
  | _ => { w.setStatus id .done with pool := w.pool.finish }

/-- Takes the next turn, if there is one. -/
def turn (w : Workshop) : Option Workshop :=
  match w.pool.turn with
  | none => none
  | some (pool, none) => some { w with pool := pool }
  | some (pool, some id) => some ({ w with pool := pool }.work id)

/-- Takes up to so many turns. -/
def run : (turns : Nat) → Workshop → Workshop
  | 0, w => w
  | n + 1, w =>
    match w.turn with
    | none => w
    | some next => run n next

/-- Takes turns until none is left. -/
def exhaust (w : Workshop) : Workshop := run (w.pool.effort fun _ => 1) w

/-- Takes all turns. Without any time going by, those workers then give up waiting whose time is
up already; they are idle since no keep-alive was in force. -/
def settle (w : Workshop) : Workshop :=
  let rested := w.exhaust
  { rested with pool := rested.pool.pass 0 }

/-- Whether the job is gated, still shut, and not yet over. -/
def isShut (w : Workshop) (id : Nat) : Bool :=
  match w.job? id with
  | some ⟨.gated, false, .waiting⟩ => true
  | some ⟨.gated, false, .running⟩ => true
  | _ => false

/-- Opens the job; if it is suspended, it may go on. -/
def unlock (w : Workshop) (id : Nat) : Workshop :=
  { w with
    jobs := w.jobs.modify id fun job => { job with opened := true }
    pool := w.pool.resume (· == id) }

/-- Opens a job that is shut, and settles. -/
def openJob (w : Workshop) (id : Nat) : Bool × Workshop :=
  if w.isShut id then (true, (w.unlock id).settle) else (false, w.settle)

/-- Settles, lets the time go by, and settles again. -/
def pass (w : Workshop) (ms : Nat) : Workshop :=
  let rested := w.settle
  { rested with pool := rested.pool.pass ms }.settle

def close (w : Workshop) : Workshop := { w with pool := w.pool.close }

/-- Lets the pool go, which closes it. -/
def letGo (w : Workshop) : Workshop := { w.close with released := true }

/-- Lets the pool go, and settles: its workers leave once their work is done. -/
def release (w : Workshop) : Workshop := w.letGo.settle

/-- What a workshop is asked to do. Reading the pool's settings or numbers is no step. -/
inductive Step
  | submit (mode : Mode)
  | openJob (id : Nat)
  | settle
  | pass (ms : Nat)
  | setMaxWorkers (n : UInt64)
  | setKeepAlive (ms : Nat)
  | throughput
  | close
  | release
  deriving DecidableEq, Repr

inductive Answer
  | done
  | submitted (submission : Submission)
  | opened (opened : Bool)
  | unusable (cause : Unusable)
  | throughput (measured : Pool.Throughput)
  | noPool
  deriving DecidableEq, Repr

/-- Whether the step is asked of the pool itself, which must not have been let go. -/
def Step.needsPool : Step → Bool
  | .submit _ => true
  | .openJob _ => false
  | .settle => false
  | .pass _ => false
  | .setMaxWorkers _ => true
  | .setKeepAlive _ => true
  | .throughput => true
  | .close => true
  | .release => false

def perform (w : Workshop) (step : Step) : Answer × Workshop :=
  match step with
  | .submit mode =>
    let (submission, w) := w.submit mode
    (.submitted submission, w)
  | .openJob id =>
    let (opened, w) := w.openJob id
    (.opened opened, w)
  | .settle => (.done, w.settle)
  | .pass ms => (.done, w.pass ms)
  | .setMaxWorkers n =>
    match w.pool.setMaxWorkers n with
    | .ok pool => (.done, { w with pool := pool })
    | .error cause => (.unusable cause, w)
  | .setKeepAlive ms => (.done, { w with pool := w.pool.setKeepAlive ms })
  | .throughput =>
    let (measured, pool) := w.pool.takeThroughput
    (.throughput measured, { w with pool := pool })
  | .close => (.done, w.close)
  | .release => (.done, w.release)

/-- Takes the step, or answers that there is no pool to take it. -/
def take (w : Workshop) (step : Step) : Answer × Workshop :=
  if w.released && step.needsPool then (.noPool, w) else w.perform step

/-- The workshop after the steps. -/
def takeAll (w : Workshop) (steps : List Step) : Workshop :=
  steps.foldl (fun w step => (w.take step).2) w

@[simp] theorem takeAll_nil (w : Workshop) : w.takeAll [] = w := rfl

@[simp] theorem takeAll_cons (w : Workshop) (step : Step) (steps : List Step) :
    w.takeAll (step :: steps) = (w.take step).2.takeAll steps := rfl

end Workshop
end StanzaDelivery
