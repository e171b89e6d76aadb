import StanzaDelivery.Proofs.Workshop.Course

/-! The moves of a workshop, one at a time, with notes of all that there is to see: the events,
and what is read off the counter of completed jobs. A path is a run from any workshop on. Every
state that is reached is reached on a path from a new workshop, and any sequence of steps is one;
a path can be cut wherever the counter was read. -/

namespace StanzaDelivery.Workshop

inductive Note
  | happened (event : Event)
  | read (measured : Pool.Throughput)
  deriving DecidableEq, Repr

def Note.event? : Note → Option Event
  | .happened event => some event
  | .read _ => none

def Note.reading? : Note → Option Pool.Throughput
  | .happened _ => none
  | .read measured => some measured

def eventsOf (notes : List Note) : List Event := notes.filterMap Note.event?

def readingsOf (notes : List Note) : List Pool.Throughput := notes.filterMap Note.reading?

@[simp] theorem eventsOf_append (notes later : List Note) :
    eventsOf (notes ++ later) = eventsOf notes ++ eventsOf later :=
  List.filterMap_append

@[simp] theorem readingsOf_append (notes later : List Note) :
    readingsOf (notes ++ later) = readingsOf notes ++ readingsOf later :=
  List.filterMap_append

@[simp] theorem eventsOf_map (events : List Event) : eventsOf (events.map .happened) = events := by
  induction events with
  | nil => rfl
  | cons event rest ih => exact congrArg (event :: ·) ih

@[simp] theorem readingsOf_map (events : List Event) : readingsOf (events.map .happened) = [] := by
  induction events with
  | nil => rfl
  | cons event rest ih => exact ih

def Event.isEnd : Event → Bool
  | .ended _ => true
  | _ => false

theorem countP_isEnd_began (began : Option Nat) :
    (began.map Event.began).toList.countP Event.isEnd = 0 := by
  cases began <;> rfl

def endings (notes : List Note) : Nat := (eventsOf notes).countP Event.isEnd

@[simp] theorem endings_append (notes later : List Note) :
    endings (notes ++ later) = endings notes + endings later := by
  simp [endings]

@[simp] theorem endings_map (events : List Event) :
    endings (events.map .happened) = events.countP Event.isEnd := by
  rw [endings, eventsOf_map]

inductive Move (w : Workshop) : List Note → Workshop → Prop
  | submit {after : Workshop} {answer : Submission} (mode : Mode)
      (submit : w.submit mode = (answer, after)) :
      Move w [.happened (.answered w.jobs.length answer)] after
  | turn {next : Workshop} (turn : w.turn = some next) : Move w (w.turnEvents.map .happened) next
  | unlock (id : Nat) (shut : w.isShut id = true) : Move w [] (w.unlock id)
  | pass (ms : Nat) : Move w [] { w with pool := w.pool.pass ms }
  | setMaxWorkers {pool : Pool Nat} (n : UInt64) (set : w.pool.setMaxWorkers n = .ok pool) :
      Move w [.happened (.limited pool.settings.max)] { w with pool := pool }
  | setKeepAlive (ms : Nat) : Move w [] { w with pool := w.pool.setKeepAlive ms }
  | throughput :
      Move w [.read w.pool.takeThroughput.1] { w with pool := w.pool.takeThroughput.2 }
  | close : Move w [] w.close
  | letGo : Move w [] w.letGo

inductive Path (start : Workshop) : List Note → Workshop → Prop
  | still : Path start [] start
  | move {w next : Workshop} {notes later : List Note} (path : Path start notes w)
      (move : w.Move later next) : Path start (notes ++ later) next

variable {start w last : Workshop} {notes later : List Note}

theorem Move.path (move : w.Move notes last) : Path w notes last := .move .still move

theorem Path.append (path : Path start notes w) (rest : Path w later last) :
    Path start (notes ++ later) last := by
  induction rest with
  | still => rwa [List.append_nil]
  | move rest move ih =>
    rw [← List.append_assoc]
    exact ih.move move

theorem Move.reached {settings : Pool.Settings} {history : List Event}
    (before : Reached settings history w) (move : w.Move notes last) :
    Reached settings (history ++ eventsOf notes) last := by
  have silent {after : Workshop} (reached : Reached settings history after) :
      Reached settings (history ++ []) after := by rwa [List.append_nil]
  cases move with
  | submit mode submit => exact before.submit mode submit
  | turn turn =>
    rw [eventsOf_map]
    exact before.turn turn
  | unlock id shut => exact silent (before.unlock id shut)
  | pass ms => exact silent (before.pass ms)
  | setMaxWorkers n set => exact before.setMaxWorkers n set
  | setKeepAlive ms => exact silent (before.setKeepAlive ms)
  | throughput => exact silent before.throughput
  | close => exact silent before.close
  | letGo => exact silent before.letGo

theorem Path.reached {settings : Pool.Settings} {history : List Event}
    (path : Path start notes last) (before : Reached settings history start) :
    Reached settings (history ++ eventsOf notes) last := by
  induction path with
  | still => exact (List.append_nil history).symm ▸ before
  | move path move ih =>
    rw [eventsOf_append, ← List.append_assoc]
    exact move.reached ih

def Runs (settings : Pool.Settings) (history : List Event) (w : Workshop) : Prop :=
  ∃ notes, Path (ofPool (.empty settings)) notes w ∧ eventsOf notes = history

theorem Runs.move {settings : Pool.Settings} {history : List Event}
    (runs : Runs settings history w) (move : w.Move later last) :
    Runs settings (history ++ eventsOf later) last := by
  obtain ⟨notes, path, rfl⟩ := runs
  exact ⟨_, path.move move, eventsOf_append notes later⟩

theorem reached_iff_runs {settings : Pool.Settings} {history : List Event} :
    Reached settings history w ↔ Runs settings history w := by
  have silent {history : List Event} {after : Workshop}
      (runs : Runs settings (history ++ []) after) : Runs settings history after := by
    rwa [List.append_nil] at runs
  constructor
  · intro reached
    induction reached with
    | new => exact ⟨[], .still, rfl⟩
    | submit mode before submit ih => exact ih.move (.submit mode submit)
    | turn before turn ih =>
      have more := ih.move (.turn turn)
      rwa [eventsOf_map] at more
    | unlock id before shut ih => exact silent (ih.move (.unlock id shut))
    | pass ms before ih => exact silent (ih.move (.pass ms))
    | setMaxWorkers n before set ih => exact ih.move (.setMaxWorkers n set)
    | setKeepAlive ms before ih => exact silent (ih.move (.setKeepAlive ms))
    | throughput before ih => exact silent (ih.move .throughput)
    | close before ih => exact silent (ih.move .close)
    | letGo before ih => exact silent (ih.move .letGo)
  · rintro ⟨notes, path, rfl⟩
    exact path.reached .new

theorem Move.of_reading {measured : Pool.Throughput} (move : w.Move notes last)
    (read : .read measured ∈ notes) :
    notes = [.read measured] ∧ measured = w.pool.takeThroughput.1 ∧
      last = { w with pool := w.pool.takeThroughput.2 } := by
  cases move with
  | throughput =>
    cases List.mem_singleton.1 read
    exact ⟨rfl, rfl, rfl⟩
  | turn turn =>
    obtain ⟨event, _, other⟩ := List.mem_map.1 read
    cases other
  | submit mode submit => cases List.mem_singleton.1 read
  | setMaxWorkers n set => cases List.mem_singleton.1 read
  | _ => cases read

theorem Path.cut (path : Path start notes last) {before after : List Note}
    {measured : Pool.Throughput} (split : notes = before ++ .read measured :: after) :
    ∃ w, Path start before w ∧ measured = w.pool.takeThroughput.1 ∧
      Path { w with pool := w.pool.takeThroughput.2 } after last := by
  induction path generalizing after with
  | still => cases (List.append_eq_nil_iff.1 split.symm).2
  | @move w next notes later path move ih =>
    have here (front : List Note) (own : later = front ++ .read measured :: after) :
        front = [] ∧ after = [] ∧ measured = w.pool.takeThroughput.1 ∧
          next = { w with pool := w.pool.takeThroughput.2 } := by
      obtain ⟨alone, known, same⟩ :=
        move.of_reading (own ▸ List.mem_append_right front (List.mem_cons_self ..))
      rw [alone, List.singleton_eq_append_iff] at own
      rcases own with ⟨rfl, tail⟩ | ⟨_, none⟩
      · cases tail
        exact ⟨rfl, rfl, known, same⟩
      · cases none
    rcases List.append_eq_append_iff.1 split with ⟨front, rfl, own⟩ | ⟨back, rfl, tail⟩
    · obtain ⟨rfl, rfl, known, rfl⟩ := here front own
      exact ⟨w, by rwa [List.append_nil], known, .still⟩
    · cases back with
      | nil =>
        obtain ⟨_, rfl, known, rfl⟩ := here [] tail.symm
        exact ⟨w, by rwa [List.append_nil] at path, known, .still⟩
      | cons note back =>
        cases tail
        obtain ⟨found, first, known, second⟩ := ih rfl
        exact ⟨found, first, known, second.move move⟩

theorem path_run (turns : Nat) (w : Workshop) :
    ∃ notes, Path w notes (run turns w) ∧ readingsOf notes = [] := by
  induction turns generalizing w with
  | zero => exact ⟨[], .still, rfl⟩
  | succ n ih =>
    rw [run]
    cases turn : w.turn with
    | none => exact ⟨[], .still, rfl⟩
    | some next =>
      obtain ⟨later, path, silent⟩ := ih next
      exact ⟨_, (Move.turn turn).path.append path, by simp [silent]⟩

theorem path_settle (w : Workshop) : ∃ notes, Path w notes w.settle ∧ readingsOf notes = [] := by
  obtain ⟨notes, path, silent⟩ := path_run (w.pool.effort fun _ => 1) w
  exact ⟨_, path.move (.pass 0), by simpa [readingsOf] using silent⟩

def Answer.reading? : Answer → Option Pool.Throughput
  | .throughput measured => some measured
  | _ => none

theorem path_take (w : Workshop) (step : Step) :
    ∃ notes, Path w notes (w.take step).2 ∧
      readingsOf notes = (w.take step).1.reading?.toList := by
  unfold Workshop.take
  split
  · exact ⟨[], .still, rfl⟩
  · cases step with
    | submit mode => exact ⟨_, (Move.submit mode rfl).path, rfl⟩
    | openJob id =>
      by_cases shut : w.isShut id = true
      · simp only [perform, openJob, if_pos shut]
        obtain ⟨later, path, silent⟩ := path_settle (w.unlock id)
        exact ⟨_, (Move.unlock id shut).path.append path, silent⟩
      · simp only [perform, openJob, if_neg shut]
        exact path_settle w
    | settle => exact path_settle w
    | pass ms =>
      obtain ⟨first, rested, quiet⟩ := path_settle w
      obtain ⟨second, after, silent⟩ := path_settle { w.settle with pool := w.settle.pool.pass ms }
      refine ⟨_, (rested.move (.pass ms)).append after, ?_⟩
      rw [readingsOf_append, readingsOf_append, quiet, silent]
      rfl
    | setMaxWorkers n =>
      simp only [perform]
      cases set : w.pool.setMaxWorkers n with
      | ok pool => exact ⟨_, (Move.setMaxWorkers n set).path, rfl⟩
      | error cause => exact ⟨[], .still, rfl⟩
    | setKeepAlive ms => exact ⟨_, (Move.setKeepAlive ms).path, rfl⟩
    | throughput => exact ⟨_, Move.throughput.path, rfl⟩
    | close => exact ⟨_, Move.close.path, rfl⟩
    | release =>
      obtain ⟨later, path, silent⟩ := path_settle w.letGo
      exact ⟨_, Move.letGo.path.append path, silent⟩

theorem path_takeAll (w : Workshop) (steps : List Step) :
    ∃ notes, Path w notes (w.takeAll steps) ∧
      readingsOf notes = (w.answersTo steps).filterMap Answer.reading? := by
  induction steps generalizing w with
  | nil => exact ⟨[], .still, rfl⟩
  | cons step steps ih =>
    obtain ⟨first, taken, here⟩ := path_take w step
    obtain ⟨second, after, rest⟩ := ih (w.take step).2
    refine ⟨first ++ second, taken.append after, ?_⟩
    rw [readingsOf_append, here, rest, answersTo]
    cases found : (w.take step).1.reading? with
    | none => simp [found]
    | some measured => simp [found]

end StanzaDelivery.Workshop
