import StanzaDelivery.Proofs.Pool.Patience
import StanzaDelivery.Proofs.Workshop.Moves
import StanzaDelivery.Proofs.Workshop.Staffing

/-! The line of idle workers. A worker begins to wait when its job is over, or anew when it has
waited in vain and may not leave; it waits for as long as is in force at that moment. While the
keep-alives have all been positive, nobody's time is up before time goes by. -/

namespace StanzaDelivery.Pool

/-- A worker's rest: since when it waits, and for how long it does. -/
structure Rest where
  since : Nat
  keepAliveMs : Nat
  deriving DecidableEq, Repr

def Rest.deadline (rest : Rest) : Nat := rest.since + rest.keepAliveMs

def Rest.isUp (now : Nat) (rest : Rest) : Bool := rest.deadline ≤ now

variable {J : Type}

def Rest.worker (rest : Rest) : Worker J := .idle rest.deadline

def newRest (p : Pool J) : Rest := ⟨p.clock, p.settings.keepAliveMs⟩

@[simp] theorem clock_wake (p : Pool J) : p.wake.clock = p.clock := by rw [wake_eq]

theorem Submitted.clock {p q : Pool J} {job : J} {admission : Admission}
    (submitted : Submitted p job admission q) : q.clock = p.clock := by
  cases submitted with
  | queued large room => simp [joined]
  | _ => rfl

theorem Turned.clock {p q : Pool J} {out began : Option J} (turned : Turned p q out began) :
    q.clock = p.clock := by
  cases turned with
  | taken job jobs rest next idle queue => simp [begin, takeIdle]
  | left rest next idle queue closed => simp [leave, takeIdle]
  | _ => rfl

theorem filter_deadline (rests : List Rest) (now : Nat) :
    (rests.map Rest.deadline).filter (now < ·) =
      (rests.filter (!·.isUp now)).map Rest.deadline := by
  have later (rest : Rest) : decide (now < rest.deadline) = !rest.isUp now := by
    simp only [Rest.isUp, ← Nat.not_le, decide_not]
  rw [List.filter_map]
  exact congrArg (List.map _) (List.filter_congr fun rest _ => later rest)

theorem idle_pass {p : Pool J} {rests : List Rest} (line : p.idle = rests.map Rest.deadline)
    (ms : Nat) :
    (p.pass ms).idle = (rests.filter (!·.isUp (p.clock + ms)) ++
      List.replicate (p.expiring ms - p.leaving (p.expiring ms)) (p.pass ms).newRest).map
        Rest.deadline := by
  rw [pass_eq, line, filter_deadline]
  simp [newRest, Rest.deadline]

theorem Turned.idle_eq {p q : Pool J} {out began : Option J} (turned : Turned p q out began) :
    ∃ gone, q.idle = p.idle.drop gone := by
  cases turned with
  | taken job jobs rest next idle queue => exact ⟨1, by simp [begin, takeIdle]⟩
  | left rest next idle queue closed => exact ⟨1, by simp [leave, takeIdle]⟩
  | _ => exact ⟨0, rfl⟩

end StanzaDelivery.Pool

namespace StanzaDelivery.Workshop

open Pool (Rest)

variable {settings : Pool.Settings} {history : List Event} {w next : Workshop} {notes : List Note}
  {rests : List Rest}

/-- The rests of the idle workers, of the one that waits longest first. Jobs are handed out from
the front of the line, and who has ended one joins it at the back. When time goes by, those whose
time is up leave their places, and any of them that may not leave the pool waits anew. -/
inductive Resting (settings : Pool.Settings) : List Event → Workshop → List Rest → Prop
  | new : Resting settings [] (ofPool (.empty settings)) []
  | move {history : List Event} {w next : Workshop} {notes : List Note} {rests : List Rest}
      (gone : Nat) (before : Resting settings history w rests) (move : w.Move notes next)
      (line : next.pool.idle =
        (rests.drop gone ++ List.replicate (endings notes) w.pool.newRest).map Rest.deadline) :
      Resting settings (history ++ eventsOf notes) next
        (rests.drop gone ++ List.replicate (endings notes) w.pool.newRest)
  | pass {history : List Event} {w : Workshop} {rests : List Rest} (ms anew : Nat)
      (before : Resting settings history w rests)
      (line : (w.pool.pass ms).idle = (rests.filter (!·.isUp (w.pool.clock + ms)) ++
        List.replicate anew (w.pool.pass ms).newRest).map Rest.deadline) :
      Resting settings history { w with pool := w.pool.pass ms }
        (rests.filter (!·.isUp (w.pool.clock + ms)) ++
          List.replicate anew (w.pool.pass ms).newRest)

theorem Resting.idle_eq (resting : Resting settings history w rests) :
    w.pool.idle = rests.map Rest.deadline := by
  cases resting with
  | new => rfl
  | move gone before move line => exact line
  | pass ms anew before line => exact line

theorem Turned.clock {events : List Event} (turned : w.Turned next events) :
    next.pool.clock = w.pool.clock := by
  cases turned with
  | quiet pool turned => exact turned.clock
  | waiting pool id began turned wait => exact turned.clock
  | ending pool id began turned free =>
    rw [Pool.finish_eq]
    exact turned.clock

theorem Turned.idle_eq {events : List Event} (turned : w.Turned next events) :
    ∃ gone, next.pool.idle = w.pool.idle.drop gone ++
      List.replicate (events.countP Event.isEnd) w.pool.newRest.deadline := by
  cases turned with
  | quiet pool turned =>
    obtain ⟨gone, idle⟩ := turned.idle_eq
    exact ⟨gone, by simpa using idle⟩
  | waiting pool id began turned wait =>
    obtain ⟨gone, idle⟩ := turned.idle_eq
    refine ⟨gone, ?_⟩
    rw [countP_isEnd_began, List.replicate_zero, List.append_nil]
    exact idle
  | ending pool id began turned free =>
    obtain ⟨gone, idle⟩ := turned.idle_eq
    refine ⟨gone, ?_⟩
    rw [List.countP_append, countP_isEnd_began, Pool.finish_eq, idle, turned.clock, turned.kept.1]
    rfl

/-- Whoever is idle after a move was idle before, unless the worker has ended a job in this move,
or time has gone by. -/
theorem Move.idle_eq (move : w.Move notes next) :
    (next.pool.clock = w.pool.clock ∧ ∃ gone, next.pool.idle =
      w.pool.idle.drop gone ++ List.replicate (endings notes) w.pool.newRest.deadline) ∨
    ∃ ms, notes = [] ∧ next = { w with pool := w.pool.pass ms } := by
  have same {after : Pool Nat} (clock : after.clock = w.pool.clock)
      (idle : after.idle = w.pool.idle) : after.clock = w.pool.clock ∧ ∃ gone, after.idle =
        w.pool.idle.drop gone ++ List.replicate 0 w.pool.newRest.deadline :=
    ⟨clock, 0, by simpa using idle⟩
  cases move with
  | submit mode submit =>
    cases offered_of_submit submit with
    | refused closed => exact .inl (same rfl rfl)
    | admitted pool admission submitted => exact .inl (same submitted.clock submitted.idle_eq)
  | turn turn =>
    rw [endings_map]
    exact .inl ⟨(turned_of_turn turn).clock, (turned_of_turn turn).idle_eq⟩
  | unlock id shut => exact .inl (same rfl rfl)
  | pass ms => exact .inr ⟨ms, rfl, rfl⟩
  | setMaxWorkers n set =>
    obtain ⟨_, rfl⟩ := (Pool.setMaxWorkers_eq_ok_iff _ _ n).1 set
    exact .inl (same rfl rfl)
  | setKeepAlive ms => exact .inl (same rfl rfl)
  | throughput => exact .inl (same rfl rfl)
  | close => exact .inl (same (Pool.clock_wake _) (Pool.idle_wake _))
  | letGo => exact .inl (same (Pool.clock_wake _) (Pool.idle_wake _))

theorem Resting.onward (resting : Resting settings history w rests) (move : w.Move notes next) :
    ∃ after, Resting settings (history ++ eventsOf notes) next after := by
  rcases move.idle_eq with ⟨_, gone, idle⟩ | ⟨ms, rfl, rfl⟩
  · refine ⟨_, resting.move gone move ?_⟩
    rw [idle, resting.idle_eq]
    simp
  · exact ⟨_, (List.append_nil history).symm ▸
      resting.pass ms _ (Pool.idle_pass resting.idle_eq ms)⟩

theorem Path.resting (path : Path (ofPool (.empty settings)) notes w) :
    ∃ rests, Resting settings (eventsOf notes) w rests := by
  induction path with
  | still => exact ⟨[], .new⟩
  | move path move ih =>
    obtain ⟨rests, resting⟩ := ih
    rw [eventsOf_append]
    exact resting.onward move

theorem Reached.resting (reached : Reached settings history w) :
    ∃ rests, Resting settings history w rests := by
  obtain ⟨notes, path, rfl⟩ := reached_iff_runs.1 reached
  exact path.resting

/-- Reached while no keep-alive has been zero. -/
inductive Patient (settings : Pool.Settings) : List Event → Workshop → Prop
  | new (positive : 0 < settings.keepAliveMs) : Patient settings [] (ofPool (.empty settings))
  | move {history : List Event} {w next : Workshop} {notes : List Note}
      (before : Patient settings history w) (move : w.Move notes next)
      (positive : 0 < next.pool.settings.keepAliveMs) :
      Patient settings (history ++ eventsOf notes) next

theorem Patient.reached (patient : Patient settings history w) : Reached settings history w := by
  induction patient with
  | new positive => exact .new
  | move before move positive ih => exact move.reached ih

theorem waits_of_idle {gone ended : Nat} (positive : 0 < w.pool.settings.keepAliveMs)
    (waits : w.pool.Waits) (clock : next.pool.clock = w.pool.clock)
    (idle : next.pool.idle =
      w.pool.idle.drop gone ++ List.replicate ended w.pool.newRest.deadline) :
    next.pool.Waits := by
  rw [Pool.Waits, idle, clock]
  intro deadline member
  rcases List.mem_append.1 member with there | anew
  · exact waits deadline (List.mem_of_mem_drop there)
  · rw [List.eq_of_mem_replicate anew]
    exact Nat.lt_add_of_pos_right positive

theorem waits_exhaust (positive : 0 < w.pool.settings.keepAliveMs) (waits : w.pool.Waits) :
    w.exhaust.pool.Waits := by
  have kept : w.exhaust.pool.Waits ∧ 0 < w.exhaust.pool.settings.keepAliveMs := by
    apply run_preserves fun after => after.pool.Waits ∧ 0 < after.pool.settings.keepAliveMs
    · intro before after events turned ⟨waits, positive⟩
      obtain ⟨gone, idle⟩ := turned.idle_eq
      refine ⟨waits_of_idle positive waits turned.clock idle, ?_⟩
      rwa [turned.kept.1]
    · exact ⟨waits, positive⟩
  exact kept.1

theorem workers_settle_of_waits (positive : 0 < w.pool.settings.keepAliveMs)
    (waits : w.pool.Waits) (running : w.pool.closed = false) :
    w.settle.pool.stats.workers = w.pool.stats.workers := by
  have left := w.workers_exhaust_pass running 0
  rwa [Pool.expiring_of_waits (waits_exhaust positive waits), Nat.zero_min, Nat.sub_zero] at left

theorem Patient.waits (patient : Patient settings history w) :
    0 < w.pool.settings.keepAliveMs ∧ w.pool.Waits := by
  induction patient with
  | new positive => exact ⟨positive, List.forall_mem_nil _⟩
  | @move history w next notes before move positive ih =>
    obtain ⟨patience, waits⟩ := ih
    refine ⟨positive, ?_⟩
    rcases move.idle_eq with ⟨clock, gone, idle⟩ | ⟨ms, rfl, rfl⟩
    · exact waits_of_idle patience waits clock idle
    · exact Pool.waits_pass patience ms

end StanzaDelivery.Workshop
