import Mathlib.Algebra.GroupWithZero.Nat
import StanzaDelivery.Proofs.Workshop.Accounts
import StanzaDelivery.Proofs.Workshop.Moves

/-! Readings of the throughput. Every reading is of the jobs that have ended since the one before
it, so the readings add up to the counter of completed jobs, whatever is asked of the pool between
them. What was read last is kept as the baseline of the next reading, and never exceeds the
counter. -/

namespace StanzaDelivery.Pool

variable {J : Type}

@[simp] theorem snapshot_wake (p : Pool J) : p.wake.snapshot = p.snapshot := by rw [wake_eq]

theorem Submitted.snapshot {p q : Pool J} {job : J} {admission : Admission}
    (submitted : Submitted p job admission q) : q.snapshot = p.snapshot := by
  cases submitted with
  | queued large room => simp [joined]
  | _ => rfl

theorem Turned.snapshot {p q : Pool J} {out began : Option J} (turned : Turned p q out began) :
    q.snapshot = p.snapshot := by
  cases turned with
  | taken job jobs rest next idle queue => simp [begin, takeIdle]
  | left rest next idle queue closed => simp [leave, takeIdle]
  | _ => rfl

end StanzaDelivery.Pool

namespace StanzaDelivery.Workshop

def rejections (notes : List Note) : Nat := (eventsOf notes).countP Event.isRejection

def reported (notes : List Note) : Nat := ((readingsOf notes).map (·.completed)).sum

@[simp] theorem rejections_append (notes later : List Note) :
    rejections (notes ++ later) = rejections notes + rejections later := by
  simp [rejections]

@[simp] theorem reported_append (notes later : List Note) :
    reported (notes ++ later) = reported notes + reported later := by
  simp [reported]

@[simp] theorem rejections_map (events : List Event) :
    rejections (events.map .happened) = events.countP Event.isRejection := by
  rw [rejections, eventsOf_map]

variable {start w next last : Workshop} {notes later : List Note}

theorem Turned.counters {events : List Event} (turned : w.Turned next events) :
    next.pool.completed = w.pool.completed + events.countP Event.isEnd ∧
      next.pool.rejected = w.pool.rejected + events.countP Event.isRejection ∧
      next.pool.snapshot = w.pool.snapshot := by
  have rejection : events.countP Event.isRejection = 0 :=
    List.countP_eq_zero.2 (turned.forall_events (fun _ => nofun) fun _ => nofun)
  rw [rejection]
  cases turned with
  | quiet pool turned => exact ⟨turned.kept.2.2.1, turned.kept.2.2.2.1, turned.snapshot⟩
  | waiting pool id first turned wait =>
    rw [countP_isEnd_began]
    exact ⟨turned.kept.2.2.1, turned.kept.2.2.2.1, turned.snapshot⟩
  | ending pool id first turned free =>
    rw [List.countP_append, countP_isEnd_began, Pool.finish_eq]
    exact ⟨congrArg (· + 1) turned.kept.2.2.1, turned.kept.2.2.2.1, turned.snapshot⟩

/-- What a move does to the counters: they go up with what is seen, and the baseline is set to
what has been completed when the counter is read. -/
structure Counted (w : Workshop) (notes : List Note) (next : Workshop) : Prop where
  completed : next.pool.completed = w.pool.completed + endings notes
  rejected : next.pool.rejected = w.pool.rejected + rejections notes
  snapshot : next.pool.snapshot =
    if readingsOf notes = [] then w.pool.snapshot else some w.pool.completed

theorem Move.counted (move : w.Move notes next) : Counted w notes next := by
  cases move with
  | submit mode submit =>
    cases offered_of_submit submit with
    | refused closed => exact ⟨rfl, rfl, rfl⟩
    | admitted pool admission submitted =>
      refine ⟨submitted.kept.2.2.1, ?_, submitted.snapshot⟩
      rw [submitted.rejected_eq]
      cases admission <;> rfl
  | turn turn =>
    obtain ⟨completed, rejected, snapshot⟩ := (turned_of_turn turn).counters
    exact ⟨by rw [endings_map, completed], by rw [rejections_map, rejected],
      by rw [readingsOf_map, if_pos rfl, snapshot]⟩
  | unlock id shut => exact ⟨rfl, rfl, rfl⟩
  | pass ms =>
    rw [Pool.pass_eq]
    exact ⟨rfl, rfl, rfl⟩
  | setMaxWorkers n set =>
    obtain ⟨_, rfl⟩ := (Pool.setMaxWorkers_eq_ok_iff _ _ n).1 set
    exact ⟨rfl, rfl, rfl⟩
  | setKeepAlive ms => exact ⟨rfl, rfl, rfl⟩
  | throughput => exact ⟨rfl, rfl, rfl⟩
  | close => exact ⟨Pool.completed_wake _, Pool.rejected_wake _, Pool.snapshot_wake _⟩
  | letGo => exact ⟨Pool.completed_wake _, Pool.rejected_wake _, Pool.snapshot_wake _⟩

theorem Path.counters (path : Path start notes last) :
    last.pool.completed = start.pool.completed + endings notes ∧
      last.pool.rejected = start.pool.rejected + rejections notes := by
  induction path with
  | still => exact ⟨rfl, rfl⟩
  | move path move ih =>
    rw [endings_append, rejections_append, move.counted.completed, move.counted.rejected, ih.1,
      ih.2]
    exact ⟨Nat.add_assoc .., Nat.add_assoc ..⟩

variable {settings : Pool.Settings}

/-- The baseline is what the readings so far add up to. -/
structure Based (notes : List Note) (w : Workshop) : Prop where
  completed : w.pool.completed = endings notes
  baseline : w.pool.snapshot = if readingsOf notes = [] then none else some (reported notes)
  below : reported notes ≤ endings notes

theorem Based.getD (based : Based notes w) : w.pool.snapshot.getD 0 = reported notes := by
  rw [based.baseline]
  split
  next none => rw [reported, none]; rfl
  next => rfl

theorem Based.reading (based : Based notes w) :
    w.pool.takeThroughput.1 =
      ⟨endings notes - reported notes, decide (readingsOf notes = [])⟩ := by
  have first : w.pool.snapshot.isNone = decide (readingsOf notes = []) := by
    rw [based.baseline]
    split <;> simp [*]
  rw [Pool.takeThroughput, based.getD, based.completed, first]

theorem Based.reported_read (based : Based notes w) :
    reported (notes ++ [.read w.pool.takeThroughput.1]) = endings notes := by
  have below := based.below
  have here : reported [.read w.pool.takeThroughput.1] = endings notes - reported notes := by
    rw [based.reading]
    rfl
  rw [reported_append, here]
  omega

theorem Based.move (based : Based notes w) (move : w.Move later next) :
    Based (notes ++ later) next := by
  have counted := move.counted
  have completed : next.pool.completed = endings (notes ++ later) := by
    rw [counted.completed, based.completed, endings_append]
  by_cases silent : readingsOf later = []
  · have nothing : reported later = 0 := by
      rw [reported, silent]
      rfl
    refine ⟨completed, ?_, ?_⟩
    · rw [counted.snapshot, if_pos silent, based.baseline]
      simp [silent, nothing]
    · have below := based.below
      simp only [reported_append, endings_append]
      omega
  · obtain ⟨measured, member⟩ := List.exists_mem_of_ne_nil _ silent
    obtain ⟨note, seen, found⟩ := List.mem_filterMap.1 member
    cases note with
    | happened event => cases found
    | read measured =>
      -- The counter is read, and there is nothing else to see of the move.
      obtain ⟨rfl, rfl, _⟩ := move.of_reading seen
      refine ⟨completed, ?_, ?_⟩
      · rw [counted.snapshot, if_neg silent, based.reported_read, based.completed]
        simp [silent]
      · rw [based.reported_read, endings_append]
        omega

theorem Path.based (path : Path (ofPool (.empty settings)) notes w) : Based notes w := by
  induction path with
  | still => exact ⟨rfl, rfl, Nat.le_refl _⟩
  | move path move ih => exact ih.move move

/-- Between two readings, or before the first one, nothing else is read. -/
structure Recent (before recent : List Note) : Prop where
  silent : readingsOf recent = []
  since : before = recent ∨ ∃ front previous, before = front ++ .read previous :: recent

theorem exists_recent (before : List Note) : ∃ recent, Recent before recent := by
  induction before with
  | nil => exact ⟨[], rfl, .inl rfl⟩
  | cons note rest ih =>
    obtain ⟨recent, silent, rfl | ⟨front, previous, rfl⟩⟩ := ih
    · cases note with
      | happened event => exact ⟨.happened event :: rest, silent, .inl rfl⟩
      | read measured => exact ⟨rest, silent, .inr ⟨[], measured, rfl⟩⟩
    · exact ⟨recent, silent, .inr ⟨note :: front, previous, rfl⟩⟩

theorem completed_of_recent {before recent : List Note} (recently : Recent before recent)
    (path : Path (ofPool (.empty settings)) before w) :
    w.pool.takeThroughput.1.completed = endings recent := by
  have nothing : reported recent = 0 := by
    rw [reported, recently.silent]
    rfl
  rw [path.based.reading]
  rcases recently.since with rfl | ⟨front, previous, rfl⟩
  · simp only [nothing, Nat.sub_zero]
  · obtain ⟨moment, first, rfl, _⟩ := path.cut rfl
    have ended := first.based.reported_read
    rw [List.append_cons, endings_append, reported_append, endings_append, ended, nothing]
    have alone : endings [.read moment.pool.takeThroughput.1] = 0 := rfl
    dsimp only
    omega

/-- The counters of completed and of rejected jobs never go down. A completed job is one that has
come to its end, well or badly. The baseline of a reading is never above the counter. Each reading
is of what has been completed since the one before it, or ever if it is the first, which it says
of itself; and up to any of them they add up to what the counter then was. -/
theorem throughput_readings_add_up (path : Path (ofPool (.empty settings)) notes w) :
    (∀ later next, Path w later next →
      w.pool.completed ≤ next.pool.completed ∧ w.pool.rejected ≤ next.pool.rejected) ∧
    w.pool.completed = endings notes ∧ w.pool.snapshot.getD 0 ≤ w.pool.completed ∧
    ∀ before measured after, notes = before ++ .read measured :: after →
      ∃ moment, Path (ofPool (.empty settings)) before moment ∧
        Path moment (.read measured :: after) w ∧ measured = moment.pool.takeThroughput.1 ∧
        (∃ recent, Recent before recent) ∧
        (∀ recent, Recent before recent → measured.completed = endings recent) ∧
        reported (before ++ [.read measured]) = moment.pool.completed ∧
        (measured.first = true ↔ readingsOf before = []) := by
  have based := path.based
  refine ⟨?_, based.completed, ?_, ?_⟩
  · intro later next onward
    obtain ⟨completed, rejected⟩ := onward.counters
    omega
  · rw [based.getD, based.completed]
    exact based.below
  · intro before measured after split
    obtain ⟨moment, first, rfl, rest⟩ := path.cut split
    have there := first.based
    refine ⟨moment, first, Move.throughput.path.append rest, rfl, exists_recent before, ?_, ?_, ?_⟩
    · intro recent recently
      exact completed_of_recent recently first
    · rw [there.reported_read, there.completed]
    · rw [there.reading, decide_eq_true_iff]

theorem throughput_readings_add_up_over_three_readings :
    ∃ notes w, Path (ofPool (.empty ⟨1, 1, 8, 60000⟩)) notes w ∧
      readingsOf notes = [⟨2, true⟩, ⟨1, false⟩, ⟨0, false⟩] ∧ endings notes = 3 ∧
      w.pool.snapshot.getD 0 ≤ 3 := by
  -- Of three jobs one fails and one has to wait. The first reading is of the two that are over, the
  -- second one of the third, and the third one of none.
  obtain ⟨notes, path, readings⟩ := path_takeAll (ofPool (.empty ⟨1, 1, 8, 60000⟩))
    [.submit .failing, .submit .instant, .submit .gated, .settle, .throughput, .openJob 2,
      .throughput, .throughput]
  obtain ⟨_, completed, below, _⟩ := throughput_readings_add_up path
  refine ⟨notes, _, path, readings.trans (by decide), ?_, ?_⟩
  · rw [← completed]
    decide
  · exact Nat.le_trans below (by decide)

end StanzaDelivery.Workshop
