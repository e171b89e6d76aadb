import StanzaDelivery.Pool.Workshop
import StanzaDelivery.Proofs.Pool.Crew

/-! The course of a workshop: the states that it goes through, move by move, with a
history of what an onlooker sees happen. Every turn of a settling is a move of its own, so
what is shown of all states that are reached holds also in the middle of a step, and the
states after any sequence of steps are among them. -/

namespace StanzaDelivery.Workshop

/-- A submission is answered, a job begins or ends, or the pool gets another largest size. -/
inductive Event
  | answered (id : Nat) (answer : Submission)
  | began (id : Nat)
  | ended (id : Nat)
  | limited (max : UInt64)
  deriving DecidableEq, Repr

def Event.submission? : Event → Option Submission
  | .answered _ answer => some answer
  | _ => none

def mustWait (w : Workshop) (id : Nat) : Bool :=
  match w.job? id with
  | some ⟨.gated, false, _⟩ => true
  | _ => false

def ending? (w : Workshop) : Option Nat :=
  match w.pool.turn with
  | some (_, some id) => if w.mustWait id then none else some id
  | _ => none

def turnEvents (w : Workshop) : List Event :=
  (w.pool.beginning?.map .began).toList ++ (w.ending?.map .ended).toList

inductive Reached (settings : Pool.Settings) : List Event → Workshop → Prop
  | new : Reached settings [] (ofPool (.empty settings))
  | submit {history : List Event} {w after : Workshop} {answer : Submission} (mode : Mode)
      (before : Reached settings history w) (submit : w.submit mode = (answer, after)) :
      Reached settings (history ++ [.answered w.jobs.length answer]) after
  | turn {history : List Event} {w next : Workshop} (before : Reached settings history w)
      (turn : w.turn = some next) : Reached settings (history ++ w.turnEvents) next
  | unlock {history : List Event} {w : Workshop} (id : Nat) (before : Reached settings history w)
      (shut : w.isShut id = true) : Reached settings history (w.unlock id)
  | pass {history : List Event} {w : Workshop} (ms : Nat) (before : Reached settings history w) :
      Reached settings history { w with pool := w.pool.pass ms }
  | setMaxWorkers {history : List Event} {w : Workshop} {pool : Pool Nat} (n : UInt64)
      (before : Reached settings history w) (set : w.pool.setMaxWorkers n = .ok pool) :
      Reached settings (history ++ [.limited pool.settings.max]) { w with pool := pool }
  | setKeepAlive {history : List Event} {w : Workshop} (ms : Nat)
      (before : Reached settings history w) :
      Reached settings history { w with pool := w.pool.setKeepAlive ms }
  | throughput {history : List Event} {w : Workshop} (before : Reached settings history w) :
      Reached settings history { w with pool := w.pool.takeThroughput.2 }
  | close {history : List Event} {w : Workshop} (before : Reached settings history w) :
      Reached settings history w.close
  | letGo {history : List Event} {w : Workshop} (before : Reached settings history w) :
      Reached settings history w.letGo

def outcome (w : Workshop) (id : Nat) : Status :=
  match w.job? id with
  | some ⟨.failing, _, _⟩ => .failed
  | _ => .done

theorem work_eq (w : Workshop) (id : Nat) :
    w.work id =
      if w.mustWait id then { w.setStatus id .running with pool := w.pool.suspend id }
      else { w.setStatus id (w.outcome id) with pool := w.pool.finish } := by
  unfold work mustWait outcome
  cases w.job? id with
  | none => rfl
  | some job =>
    obtain ⟨mode, opened, status⟩ := job
    cases mode with
    | instant => rfl
    | failing => rfl
    | gated => cases opened <;> rfl

inductive Offered (w : Workshop) (mode : Mode) : Submission → Workshop → Prop
  | refused (closed : w.pool.closed = true) :
      Offered w mode .refused { w with jobs := w.jobs ++ [⟨mode, false, .dropped⟩] }
  | admitted (pool : Pool Nat) (admission : Pool.Admission)
      (submitted : w.pool.Submitted w.jobs.length admission pool) :
      Offered w mode (.admitted admission) { w with
        pool := pool
        jobs := w.jobs ++ [⟨mode, false, if admission = .rejected then .dropped else .waiting⟩] }

theorem offered_of_submit {w after : Workshop} {mode : Mode} {answer : Submission}
    (submit : w.submit mode = (answer, after)) : w.Offered mode answer after := by
  unfold Workshop.submit at submit
  cases answered : w.pool.submit w.jobs.length with
  | none =>
    simp only [answered] at submit
    cases submit
    exact .refused ((Pool.submit_eq_none_iff w.pool w.jobs.length).1 answered)
  | some result =>
    obtain ⟨admission, pool⟩ := result
    have submitted := Pool.submitted_of_submit answered
    simp only [answered] at submit
    cases admission with
    | started =>
      cases submit
      exact .admitted pool .started submitted
    | queued =>
      cases submit
      exact .admitted pool .queued submitted
    | rejected =>
      cases submit
      exact .admitted pool .rejected submitted

/-- What a turn of a workshop can come to: nothing is worked on, or a job is that has to
wait, or a job is that comes to its end. -/
inductive Turned (w : Workshop) : Workshop → List Event → Prop
  | quiet (pool : Pool Nat) (turned : w.pool.Turned pool none none) :
      Turned w { w with pool := pool } []
  | waiting (pool : Pool Nat) (id : Nat) (began : Option Nat)
      (turned : w.pool.Turned pool (some id) began) (wait : w.mustWait id = true) :
      Turned w { w.setStatus id .running with pool := pool.suspend id }
        (began.map .began).toList
  | ending (pool : Pool Nat) (id : Nat) (began : Option Nat)
      (turned : w.pool.Turned pool (some id) began) (free : w.mustWait id = false) :
      Turned w { w.setStatus id (w.outcome id) with pool := pool.finish }
        ((began.map .began).toList ++ [.ended id])

theorem turned_of_turn {w next : Workshop} (turn : w.turn = some next) :
    w.Turned next w.turnEvents := by
  unfold Workshop.turn at turn
  cases taken : w.pool.turn with
  | none => simp [taken] at turn
  | some result =>
    obtain ⟨pool, out⟩ := result
    have turned := Pool.turned_of_turn taken
    cases out with
    | none =>
      simp only [taken, Option.some.injEq] at turn
      subst turn
      have idle : w.pool.beginning? = none := by
        generalize began : w.pool.beginning? = found at turned
        cases turned <;> rfl
      rw [idle] at turned
      simpa [turnEvents, ending?, taken, idle] using Turned.quiet pool turned
    | some id =>
      simp only [taken, Option.some.injEq, work_eq] at turn
      by_cases wait : w.mustWait id = true
      · have held : { w with pool := pool }.mustWait id = true := wait
        rw [if_pos held] at turn
        subst turn
        have events : w.turnEvents = (w.pool.beginning?.map .began).toList := by
          simp [turnEvents, ending?, taken, wait]
        rw [events]
        exact .waiting pool id _ turned wait
      · have free : w.mustWait id = false := by simpa using wait
        have loose : ¬{ w with pool := pool }.mustWait id = true := wait
        rw [if_neg loose] at turn
        subst turn
        have events : w.turnEvents =
            (w.pool.beginning?.map .began).toList ++ [.ended id] := by
          simp [turnEvents, ending?, taken, free]
        rw [events]
        exact .ending pool id _ turned free

theorem Turned.forall_events {w next : Workshop} {events : List Event}
    (turned : w.Turned next events) {P : Event → Prop} (began : ∀ id, P (.began id))
    (ended : ∀ id, P (.ended id)) : ∀ event ∈ events, P event := by
  have beginning : ∀ first : Option Nat, ∀ event ∈ (first.map Event.began).toList, P event := by
    intro first event member
    cases first with
    | none => cases member
    | some id =>
      rw [List.mem_singleton.1 member]
      exact began id
  cases turned with
  | quiet pool turned => exact List.forall_mem_nil _
  | waiting pool id first turned wait => exact beginning first
  | ending pool id first turned free =>
    intro event member
    rcases List.mem_append.1 member with here | last
    · exact beginning first event here
    · rw [List.mem_singleton.1 last]
      exact ended id

theorem run_preserves (Holds : Workshop → Prop)
    (turn : ∀ {w next : Workshop} {events : List Event},
      w.Turned next events → Holds w → Holds next)
    {w : Workshop} (holds : Holds w) (turns : Nat) : Holds (run turns w) := by
  induction turns generalizing w with
  | zero => exact holds
  | succ n ih =>
    rw [run]
    cases next : w.turn with
    | none => exact holds
    | some after => exact ih (turn (turned_of_turn next) holds)

def submissions (history : List Event) : List Submission := history.filterMap Event.submission?

@[simp] theorem submissions_append (history later : List Event) :
    submissions (history ++ later) = submissions history ++ submissions later :=
  List.filterMap_append

theorem Turned.submissions {w next : Workshop} {events : List Event}
    (turned : w.Turned next events) : submissions events = [] :=
  List.filterMap_eq_nil_iff.2 (turned.forall_events (fun _ => rfl) fun _ => rfl)

variable {settings : Pool.Settings} {history : List Event} {w : Workshop}

theorem Reached.run (reached : Reached settings history w) (turns : Nat) :
    ∃ later, Reached settings (history ++ later) (Workshop.run turns w) ∧
      submissions later = [] := by
  induction turns generalizing history w with
  | zero => exact ⟨[], by rwa [List.append_nil], rfl⟩
  | succ n ih =>
    cases turn : w.turn with
    | none =>
      refine ⟨[], ?_, rfl⟩
      rw [List.append_nil, Workshop.run, turn]
      exact reached
    | some next =>
      obtain ⟨later, after, quiet⟩ := ih (reached.turn turn)
      refine ⟨w.turnEvents ++ later, ?_, ?_⟩
      · rw [Workshop.run, turn, ← List.append_assoc]
        exact after
      · rw [submissions_append, (turned_of_turn turn).submissions, quiet]
        rfl

theorem Reached.settle (reached : Reached settings history w) :
    ∃ later, Reached settings (history ++ later) w.settle ∧ submissions later = [] := by
  obtain ⟨later, rested, quiet⟩ := reached.run (w.pool.effort fun _ => 1)
  exact ⟨later, rested.pass 0, quiet⟩

def Answer.submission? : Answer → Option Submission
  | .submitted submission => some submission
  | _ => none

theorem Reached.take (reached : Reached settings history w) (step : Step) :
    ∃ later, Reached settings (history ++ later) (w.take step).2 ∧
      submissions later = (w.take step).1.submission?.toList := by
  have still : Reached settings (history ++ []) w := by rwa [List.append_nil]
  unfold Workshop.take
  split
  · exact ⟨[], still, rfl⟩
  · cases step with
    | submit mode => exact ⟨_, reached.submit mode rfl, rfl⟩
    | openJob id =>
      by_cases shut : w.isShut id = true
      · simp only [perform, openJob, if_pos shut]
        exact (reached.unlock id shut).settle
      · simp only [perform, openJob, if_neg shut]
        exact reached.settle
    | settle => exact reached.settle
    | pass ms =>
      obtain ⟨first, rested, quiet⟩ := reached.settle
      obtain ⟨second, after, silent⟩ := (rested.pass ms).settle
      refine ⟨first ++ second, ?_, ?_⟩
      · rw [← List.append_assoc]
        exact after
      · rw [submissions_append, quiet, silent]
        rfl
    | setMaxWorkers n =>
      simp only [perform]
      cases set : w.pool.setMaxWorkers n with
      | ok pool => exact ⟨_, reached.setMaxWorkers n set, rfl⟩
      | error cause => exact ⟨[], still, rfl⟩
    | setKeepAlive ms =>
      refine ⟨[], ?_, rfl⟩
      rw [List.append_nil]
      exact reached.setKeepAlive ms
    | throughput =>
      refine ⟨[], ?_, rfl⟩
      rw [List.append_nil]
      exact reached.throughput
    | close =>
      refine ⟨[], ?_, rfl⟩
      rw [List.append_nil]
      exact reached.close
    | release => exact reached.letGo.settle

def answersTo (w : Workshop) : List Step → List Answer
  | [] => []
  | step :: steps => (w.take step).1 :: (w.take step).2.answersTo steps

theorem Reached.takeAll (reached : Reached settings history w) (steps : List Step) :
    ∃ later, Reached settings (history ++ later) (w.takeAll steps) ∧
      submissions later = (w.answersTo steps).filterMap Answer.submission? := by
  induction steps generalizing history w with
  | nil => exact ⟨[], by rwa [List.append_nil], rfl⟩
  | cons step steps ih =>
    obtain ⟨first, taken, here⟩ := reached.take step
    obtain ⟨second, after, rest⟩ := ih taken
    refine ⟨first ++ second, ?_, ?_⟩
    · rw [← List.append_assoc, takeAll_cons]
      exact after
    · rw [submissions_append, here, rest, answersTo]
      cases head : (w.take step).1.submission? with
      | none => simp [head]
      | some submission => simp [head]

end StanzaDelivery.Workshop
