import StanzaDelivery.Proofs.Workshop.Custody

/-! The order in which queued jobs begin. A turn begins the job of a new worker or the head of
the queue, whichever worker has the turn, and a submission puts a job into one of the two places
only. So the jobs that were queued are, at every moment, those that have begun since, in the order
in which they began, and behind them the queue. -/

namespace StanzaDelivery.Pool

variable {J : Type}

theorem Submitted.places {p q : Pool J} {job : J} {admission : Admission}
    (submitted : Submitted p job admission q) :
    q.queue = p.queue ++ (if admission = .queued then [job] else []) ∧
      q.firstJobs = p.firstJobs ++ (if admission = .started then [job] else []) := by
  have spawned : (p.spawn job).queue = p.queue ++ [] ∧
      (p.spawn job).firstJobs = p.firstJobs ++ [job] :=
    ⟨(List.append_nil _).symm, firstJobs_spawn p job⟩
  cases submitted with
  | core small => exact spawned
  | queued large room => exact ⟨queue_wake _, (firstJobs_wake _).trans (List.append_nil _).symm⟩
  | extra large full below => exact spawned
  | rejected large full top => exact ⟨(List.append_nil _).symm, (List.append_nil _).symm⟩

theorem Turned.places {p q : Pool J} {out began : Option J} (turned : Turned p q out began) :
    (∃ job, began = some job ∧ p.queue = job :: q.queue ∧ q.firstJobs = p.firstJobs) ∨
      q.queue = p.queue ∧ p.firstJobs = began.toList ++ q.firstJobs := by
  cases turned with
  | first job rest next => exact .inr ⟨rfl, by simp [firstJobs, next, begin]⟩
  | resumed job rest next => exact .inr ⟨rfl, by simp [firstJobs, next]⟩
  | taken job jobs rest next idle queue =>
    refine .inl ⟨job, rfl, ?_, ?_⟩
    · simpa [begin, takeIdle] using queue
    · rw [firstJobs_begin, firstJobs_takeIdle]
      simp [firstJobs, next]
  | left rest next idle queue closed =>
    refine .inr ⟨queue_wake _, ?_⟩
    rw [firstJobs_leave]
    simp [firstJobs, next]
  | unneeded rest next nothing => exact .inr ⟨rfl, by simp [firstJobs, next]⟩

end StanzaDelivery.Pool

namespace StanzaDelivery.Workshop

def Event.queued? : Event → Option Nat
  | .answered id (.admitted .queued) => some id
  | _ => none

def Event.began? : Event → Option Nat
  | .began id => some id
  | _ => none

def queuedJobs (history : List Event) : List Nat := history.filterMap Event.queued?

def begunJobs (history : List Event) : List Nat := history.filterMap Event.began?

theorem Event.queued?_eq_some_iff {event : Event} {id : Nat} :
    event.queued? = some id ↔ event = .answered id (.admitted .queued) := by
  constructor
  · intro queued
    unfold Event.queued? at queued
    split at queued
    · cases queued
      rfl
    · cases queued
  · rintro rfl
    rfl

theorem Event.began?_eq_some_iff {event : Event} {id : Nat} :
    event.began? = some id ↔ event = .began id := by
  cases event <;> simp [Event.began?]

theorem mem_queuedJobs {history : List Event} {id : Nat} :
    id ∈ queuedJobs history ↔ .answered id (.admitted .queued) ∈ history := by
  simp [queuedJobs, Event.queued?_eq_some_iff]

theorem mem_begunJobs {history : List Event} {id : Nat} :
    id ∈ begunJobs history ↔ .began id ∈ history := by
  simp [begunJobs, Event.began?_eq_some_iff]

def begunFromQueue (history : List Event) : List Nat :=
  (begunJobs history).filter (· ∈ queuedJobs history)

@[simp] theorem queuedJobs_append (history later : List Event) :
    queuedJobs (history ++ later) = queuedJobs history ++ queuedJobs later :=
  List.filterMap_append

@[simp] theorem begunJobs_append (history later : List Event) :
    begunJobs (history ++ later) = begunJobs history ++ begunJobs later :=
  List.filterMap_append

variable {history : List Event} {w : Workshop}

theorem Offered.places {mode : Mode} {answer : Submission} {after : Workshop}
    (offered : w.Offered mode answer after) :
    after.pool.queue = w.pool.queue ++ queuedJobs [.answered w.jobs.length answer] ∧
      ∀ id ∈ after.pool.firstJobs, id ∈ w.pool.firstJobs ∨
        id = w.jobs.length ∧ queuedJobs [.answered w.jobs.length answer] = [] := by
  cases offered with
  | refused closed => exact ⟨(List.append_nil _).symm, fun _ => .inl⟩
  | admitted pool admission submitted =>
    obtain ⟨queue, firstJobs⟩ := submitted.places
    refine ⟨?_, ?_⟩
    · rw [queue]
      cases admission <;> rfl
    · intro id member
      rw [firstJobs, List.mem_append] at member
      rcases member with before | new
      · exact .inl before
      · cases admission with
        | started => exact .inr ⟨List.mem_singleton.1 new, rfl⟩
        | queued => cases new
        | rejected => cases new

theorem Turned.queuedJobs {next : Workshop} {events : List Event}
    (turned : w.Turned next events) : queuedJobs events = [] :=
  List.filterMap_eq_nil_iff.2 (turned.forall_events (fun _ => rfl) fun _ => rfl)

theorem Turned.places {next : Workshop} {events : List Event} (turned : w.Turned next events) :
    (∃ id, begunJobs events = [id] ∧ w.pool.queue = id :: next.pool.queue ∧
      next.pool.firstJobs = w.pool.firstJobs) ∨
    next.pool.queue = w.pool.queue ∧
      w.pool.firstJobs = begunJobs events ++ next.pool.firstJobs := by
  have begun : ∀ first : Option Nat, begunJobs (first.map Event.began).toList = first.toList := by
    intro first
    cases first <;> rfl
  cases turned with
  | quiet pool turned =>
    rcases turned.places with ⟨id, none, _⟩ | either
    · cases none
    · exact .inr either
  | waiting pool id first turned wait =>
    rw [begun]
    rcases turned.places with ⟨id, rfl, queue, firstJobs⟩ | either
    · exact .inl ⟨id, rfl, queue, firstJobs⟩
    · exact .inr either
  | ending pool id first turned free =>
    have ended : begunJobs ((first.map Event.began).toList ++ [.ended id]) = first.toList := by
      rw [begunJobs_append, begun]
      exact List.append_nil _
    rw [ended, Pool.firstJobs_finish, Pool.finish_eq]
    rcases turned.places with ⟨id, rfl, queue, firstJobs⟩ | either
    · exact .inl ⟨id, rfl, queue, firstJobs⟩
    · exact .inr either

/-- The queue is what is left of the queued jobs. No job that was given to a new worker is among
them, and they are numbered in the order in which they were submitted. -/
structure Lined (history : List Event) (w : Workshop) : Prop where
  queue : queuedJobs history = begunFromQueue history ++ w.pool.queue
  apart : ∀ id ∈ w.pool.firstJobs, id ∉ queuedJobs history
  ordered : (queuedJobs history).Pairwise (· < ·)

theorem Tracked.lt_of_queued (tracked : Tracked history w) {id : Nat}
    (queued : id ∈ queuedJobs history) : id < w.jobs.length := by
  have once := tracked.answered id
  have some : 0 < history.countP (Event.answers id) :=
    List.countP_pos_iff.2 ⟨_, mem_queuedJobs.1 queued, by simp [Event.answers]⟩
  split at once
  next inside => exact inside
  next => omega

theorem Tracked.new_notMem (tracked : Tracked history w) :
    w.jobs.length ∉ queuedJobs history ∧ w.jobs.length ∉ begunJobs history ∧
      w.jobs.length ∉ w.pool.firstJobs := by
  obtain ⟨admits, began, _⟩ := tracked.unknown
  have waits := tracked.begun w.jobs.length
  refine ⟨?_, ?_, ?_⟩
  · intro queued
    exact Nat.lt_irrefl _ (tracked.lt_of_queued queued)
  · intro begun
    exact List.count_eq_zero.1 began (mem_begunJobs.1 begun)
  · intro first
    have some : 0 < w.pool.waiting.count w.jobs.length :=
      List.count_pos_iff.2 (List.mem_append_right _ first)
    omega

theorem Lined.submit {mode : Mode} {answer : Submission} {after : Workshop}
    (lined : Lined history w) (tracked : Tracked history w)
    (offered : w.Offered mode answer after) :
    Lined (history ++ [.answered w.jobs.length answer]) after := by
  obtain ⟨queue, apart, ordered⟩ := lined
  obtain ⟨notQueued, notBegun, notFirst⟩ := tracked.new_notMem
  obtain ⟨joins, firstJobs⟩ := offered.places
  have new : ∀ id ∈ queuedJobs [.answered w.jobs.length answer], id = w.jobs.length := by
    intro id member
    have here := mem_queuedJobs.1 member
    rw [List.mem_singleton, Event.answered.injEq] at here
    exact here.1
  have same : begunFromQueue (history ++ [.answered w.jobs.length answer]) =
      begunFromQueue history := by
    have silent : begunJobs [.answered w.jobs.length answer] = [] := rfl
    rw [begunFromQueue, begunJobs_append, silent, List.append_nil, queuedJobs_append]
    apply List.filter_congr
    intro id begun
    have other : id ∉ queuedJobs [.answered w.jobs.length answer] := fun member =>
      notBegun (new id member ▸ begun)
    simp [other]
  refine ⟨?_, ?_, ?_⟩
  · rw [same, queuedJobs_append, queue, joins, List.append_assoc]
  · intro id first member
    rw [queuedJobs_append, List.mem_append] at member
    rcases firstJobs id first with before | ⟨rfl, none⟩
    · rcases member with old | own
      · exact apart id before old
      · exact notFirst (new id own ▸ before)
    · rcases member with old | own
      · exact notQueued old
      · rw [none] at own
        cases own
  · rw [queuedJobs_append, List.pairwise_append]
    refine ⟨ordered, ?_, ?_⟩
    · cases answer with
      | refused => exact .nil
      | admitted admission =>
        cases admission with
        | started => exact .nil
        | queued => exact List.pairwise_singleton _ _
        | rejected => exact .nil
    · intro id old other own
      rw [new other own]
      exact tracked.lt_of_queued old

theorem Lined.turn {next : Workshop} {events : List Event} (lined : Lined history w)
    (turned : w.Turned next events) : Lined (history ++ events) next := by
  obtain ⟨queue, apart, ordered⟩ := lined
  have same : queuedJobs (history ++ events) = queuedJobs history := by
    rw [queuedJobs_append, turned.queuedJobs, List.append_nil]
  have grown : begunFromQueue (history ++ events) =
      begunFromQueue history ++ (begunJobs events).filter (· ∈ queuedJobs history) := by
    rw [begunFromQueue, same, begunJobs_append, List.filter_append]
    rfl
  rcases turned.places with ⟨id, begun, head, firstJobs⟩ | ⟨still, firstJobs⟩
  · refine ⟨?_, ?_, ?_⟩
    · rw [same, grown, begun, queue, head]
      simp
    · rw [same, firstJobs]
      exact apart
    · rw [same]
      exact ordered
  · have none : (begunJobs events).filter (· ∈ queuedJobs history) = [] := by
      rw [List.filter_eq_nil_iff]
      intro id begun
      have first : id ∈ w.pool.firstJobs := by
        rw [firstJobs]
        exact List.mem_append_left _ begun
      simpa using apart id first
    refine ⟨?_, ?_, ?_⟩
    · rw [same, grown, none, List.append_nil, still]
      exact queue
    · intro id first
      rw [same]
      apply apart
      rw [firstJobs]
      exact List.mem_append_right _ first
    · rw [same]
      exact ordered

theorem Lined.of_places (lined : Lined history w) (pool : Pool Nat)
    (queue : pool.queue = w.pool.queue) (firstJobs : pool.firstJobs = w.pool.firstJobs)
    (jobs : List Job) (released : Bool) : Lined history ⟨pool, jobs, released⟩ := by
  refine ⟨?_, ?_, lined.ordered⟩
  · rw [queue]
    exact lined.queue
  · rw [firstJobs]
    exact lined.apart

theorem Lined.limited (lined : Lined history w) (max : UInt64) :
    Lined (history ++ [.limited max]) w := by
  have queued : queuedJobs (history ++ [.limited max]) = queuedJobs history := by
    rw [queuedJobs_append]
    exact List.append_nil _
  have begun : begunJobs (history ++ [.limited max]) = begunJobs history := by
    rw [begunJobs_append]
    exact List.append_nil _
  refine ⟨?_, ?_, ?_⟩
  · rw [begunFromQueue, queued, begun]
    exact lined.queue
  · rw [queued]
    exact lined.apart
  · rw [queued]
    exact lined.ordered

theorem Reached.lined {settings : Pool.Settings} (reached : Reached settings history w) :
    Lined history w := by
  induction reached with
  | new => exact ⟨rfl, List.forall_mem_nil _, .nil⟩
  | submit mode before submit ih => exact ih.submit before.tracked (offered_of_submit submit)
  | turn before turn ih => exact ih.turn (turned_of_turn turn)
  | unlock id before shut ih =>
    exact ih.of_places (Pool.resume _ _) (by rfl) (Pool.firstJobs_resume _ _) _ _
  | pass ms before ih =>
    rw [Pool.pass_eq]
    exact ih.of_places _ (by rfl) (by rfl) _ _
  | setMaxWorkers n before set ih =>
    obtain ⟨_, rfl⟩ := (Pool.setMaxWorkers_eq_ok_iff _ _ n).1 set
    exact (ih.of_places _ (by rfl) (by rfl) _ _).limited _
  | setKeepAlive ms before ih => exact ih.of_places _ (by rfl) (by rfl) _ _
  | throughput before ih => exact ih.of_places _ (by rfl) (by rfl) _ _
  | close before ih =>
    exact ih.of_places (Pool.close _) (Pool.queue_wake _) (Pool.firstJobs_wake _) _ _
  | letGo before ih =>
    exact ih.of_places (Pool.close _) (Pool.queue_wake _) (Pool.firstJobs_wake _) _ _

theorem mem_of_ordered {front rest : List Nat} {early late : Nat}
    (ordered : (front ++ late :: rest).Pairwise (· < ·)) (member : early ∈ front ++ late :: rest)
    (less : early < late) : early ∈ front := by
  rcases List.mem_append.1 member with here | behind
  · exact here
  · obtain ⟨_, tail, _⟩ := List.pairwise_append.1 ordered
    rcases List.mem_cons.1 behind with rfl | later
    · exact absurd less (Nat.lt_irrefl _)
    · exact absurd less (Nat.lt_asymm ((List.pairwise_cons.1 tail).1 early later))

variable {settings : Pool.Settings}

/-- Queued jobs begin in the order in which they were submitted: those that have begun are the
first ones that were queued, and the others stand in the queue, in that order too. So when a
queued job begins, every job that was queued before it has begun already. -/
theorem queued_jobs_begin_in_order (reached : Reached settings history w) :
    queuedJobs history = begunFromQueue history ++ w.pool.queue ∧
      (queuedJobs history).Pairwise (· < ·) ∧
      ∀ early late, [early, late].Sublist (queuedJobs history) →
        ∀ before after, history = before ++ .began late :: after → .began early ∈ before := by
  obtain ⟨queue, _, ordered⟩ := reached.lined
  refine ⟨queue, ordered, ?_⟩
  intro early late order before after split
  have queued : late ∈ queuedJobs history := order.subset (by simp)
  have begun : begunFromQueue history =
      (begunJobs before).filter (· ∈ queuedJobs history) ++
        late :: (begunJobs after).filter (· ∈ queuedJobs history) := by
    have parts : begunJobs history = begunJobs before ++ late :: begunJobs after := by
      rw [split, begunJobs_append]
      rfl
    rw [begunFromQueue, parts, List.filter_append, List.filter_cons_of_pos (by simpa using queued)]
  have less : early < late := by
    have pair := ordered.sublist order
    simpa using pair
  have member : early ∈ queuedJobs history := order.subset (by simp)
  rw [queue, begun, List.append_assoc, List.cons_append] at ordered member
  have first := mem_of_ordered ordered member less
  exact mem_begunJobs.1 (List.mem_filter.1 first).1

theorem queued_jobs_begin_in_order_behind_an_extra_worker :
    ∃ history w, Reached ⟨1, 2, 2, 60000⟩ history w ∧ begunJobs history = [0, 3, 1, 2] ∧
      queuedJobs history = [1, 2] ∧ .began 1 ∈ history.take 9 := by
  -- The core worker waits at a gate. The extra worker, whose own job was submitted last, begins
  -- that one and then the two queued jobs, one after the other.
  have full : Reached ⟨1, 2, 2, 60000⟩ [.answered 0 (.admitted .started),
      .answered 1 (.admitted .queued), .answered 2 (.admitted .queued),
      .answered 3 (.admitted .started)] _ :=
    (((Reached.new.submit .gated rfl).submit .instant rfl).submit .failing rfl).submit .instant rfl
  have worked := (((full.turn rfl).turn rfl).turn rfl).turn rfl
  obtain ⟨_, _, first⟩ := queued_jobs_begin_in_order worked
  exact ⟨_, _, worked, rfl, rfl, first 1 2 (by decide) _ _ rfl⟩

end StanzaDelivery.Workshop
