import StanzaDelivery.Proofs.Engine.Calls
import StanzaDelivery.Proofs.Engine.Replies

/-! What a handle gets to know. A request that was not rejected is one job until it is carried
out, once; that settles its handle, which nothing else does. So it is with any backing, which may
be another one at every turn. -/

namespace StanzaDelivery.Engine

open scoped List

/-- A request of the outside is answered, or an engine with this backing carries out a job. -/
inductive Occurrence
  | asked (task : Task) (answer : Option Pool.Admission)
  | carried (backing : Backing) (engine : Engine) (job : Job)

def occurrences (backing : Backing) (e : Engine) : List Occurrence :=
  match e.pool.turn with
  | some (pool, some job) => if e.waits job then [] else [.carried backing (e.taking pool) job]
  | _ => []

/-- The states that an engine goes through, whoever backs it in each of its turns. -/
inductive ReachedBy : List Occurrence → Engine → Prop
  | new {scheduled : Bool} {settings : Pool.Settings} {pool : Pool Job} (router : Router)
      (deliverer : Handover.Deliverer) (gate : Option Bool) (keepsCopies keepsLog : Bool)
      (site : Site) (launched : Pool.launch scheduled settings = .launched pool) :
      ReachedBy [] (empty router deliverer gate keepsCopies keepsLog site pool)
  | relay {course : List Occurrence} {e : Engine} (address : Address) (stanza : Stanza)
      (escalation : Escalation) (before : ReachedBy course e) :
      ReachedBy
        (course ++ [.asked ⟨address, stanza, escalation, some e.handles.length⟩
          (e.offer ⟨address, stanza, escalation, some e.handles.length⟩).1])
        (e.relay address stanza escalation).2
  | turn {course : List Occurrence} {e next : Engine} (backing : Backing)
      (before : ReachedBy course e) (turn : backing.turn e = some next) :
      ReachedBy (course ++ e.occurrences backing) next
  | outside {course : List Occurrence} {e after : Engine} (before : ReachedBy course e)
      (outside : e.Outside after) : ReachedBy course after

abbrev Ending := Task × Option Report

def Occurrence.request? : Occurrence → Option (Task × Option Pool.Admission)
  | .asked task answer => some (task, answer)
  | .carried _ _ _ => none

def Occurrence.ending? : Occurrence → Option Ending
  | .asked _ _ => none
  | .carried backing engine job => some (job.task, backing.outcome engine job)

def Event.request? : Event → Option (Task × Option Pool.Admission)
  | .asked task answer => some (task, answer)
  | _ => none

def Event.ending? : Event → Option Ending
  | .executed x => some (x.task, x.outcome)
  | _ => none

variable {course : List Occurrence} {history : List Event} {b : Backing}
  {asked : List (Task × Option Pool.Admission)} {ended : List Ending} {e next after : Engine}
  {task : Task} {admission : Pool.Admission} {known : Handle} {handle : Nat}

theorem silent_replies (cause : Task) (deeds : List Escalation.Deed) :
    (deeds.filterMap (replied? cause)).filterMap Event.request? = [] ∧
      (deeds.filterMap (replied? cause)).filterMap Event.ending? = [] := by
  constructor <;>
  · refine List.filterMap_eq_nil_iff.2 fun event member => ?_
    obtain ⟨_, _, _, _, rfl⟩ := eq_replied_of_mem member
    rfl

theorem occurrences_own (e : Engine) :
    (e.occurrences .own).filterMap Occurrence.request? = e.turnEvents.filterMap Event.request? ∧
      (e.occurrences .own).filterMap Occurrence.ending? =
        e.turnEvents.filterMap Event.ending? := by
  rcases taken : e.pool.turn with _ | ⟨pool, _ | job⟩
  · simp [occurrences, turnEvents, taken]
  · simp [occurrences, turnEvents, taken]
  · cases waits : e.waits job with
    | true => simp [occurrences, turnEvents, taken, waits]
    | false =>
      obtain ⟨requests, endings⟩ := silent_replies job.task ((e.taking pool).deedsFor job)
      simp only [occurrences, turnEvents, taken, waits, Bool.false_eq_true, if_false, workEvents]
      rw [List.filterMap_cons_none (f := Event.request?) rfl, requests,
        List.filterMap_cons_some (f := Event.ending?) rfl, endings]
      refine ⟨rfl, ?_⟩
      rw [List.filterMap_cons_some (f := Occurrence.ending?) rfl, Backing.outcome_own]
      rfl

theorem Reached.reachedBy (reached : Reached history e) :
    ∃ course, ReachedBy course e ∧
      course.filterMap Occurrence.request? = history.filterMap Event.request? ∧
      course.filterMap Occurrence.ending? = history.filterMap Event.ending? := by
  induction reached with
  | new router deliverer gate keepsCopies keepsLog site launched built =>
    exact ⟨[], .new router deliverer gate keepsCopies keepsLog site launched, rfl, rfl⟩
  | relay address stanza escalation before ih =>
    obtain ⟨course, reached, requests, endings⟩ := ih
    refine ⟨_, reached.relay address stanza escalation, ?_, ?_⟩
    · rw [List.filterMap_append, List.filterMap_append, requests]
      rfl
    · rw [List.filterMap_append, List.filterMap_append, endings]
      rfl
  | @turn history e next before turn ih =>
    obtain ⟨course, reached, requests, endings⟩ := ih
    obtain ⟨asked, carried⟩ := e.occurrences_own
    refine ⟨_, reached.turn .own ((Backing.turn_own e).trans turn), ?_, ?_⟩
    · rw [List.filterMap_append, List.filterMap_append, requests, asked]
    · rw [List.filterMap_append, List.filterMap_append, endings, carried]
  | outside before outside ih =>
    obtain ⟨course, reached, same⟩ := ih
    exact ⟨course, reached.outside outside, same⟩

def tasksAt (handle : Nat) (jobs : List Job) : List Task :=
  (jobs.map Job.task).filter fun task => task.handle = some handle

def endedAt (handle : Nat) (ended : List Ending) : List Ending :=
  ended.filter fun ending => ending.1.handle = some handle

theorem mem_tasksAt {jobs : List Job} :
    task ∈ tasksAt handle jobs ↔ (∃ job ∈ jobs, job.task = task) ∧ task.handle = some handle := by
  simp [tasksAt]

theorem mem_endedAt {ending : Ending} :
    ending ∈ endedAt handle ended ↔ ending ∈ ended ∧ ending.1.handle = some handle := by
  simp [endedAt]

theorem tasksAt_cons (handle : Nat) (job : Job) (jobs : List Job) :
    tasksAt handle (job :: jobs) =
      if job.task.handle = some handle then job.task :: tasksAt handle jobs
      else tasksAt handle jobs := by
  simp [tasksAt, List.filter_cons]

theorem tasksAt_append (handle : Nat) (jobs others : List Job) :
    tasksAt handle (jobs ++ others) = tasksAt handle jobs ++ tasksAt handle others := by
  simp [tasksAt]

theorem tasksAt_eq_nil {jobs : List Job} (none : ∀ job ∈ jobs, job.task.handle ≠ some handle) :
    tasksAt handle jobs = [] := by
  simpa [tasksAt] using none

theorem tasksAt_perm (handle : Nat) {jobs others : List Job} (same : jobs ~ others) :
    tasksAt handle jobs ~ tasksAt handle others :=
  (same.map _).filter _

/-- How a request stands: the tasks of its handle that are not over, those that are, and what the
handle knows. -/
inductive Standing (task : Task) (admission : Pool.Admission) :
    List Task → List Ending → Handle → Prop
  | rejected {known : Handle} (rejected : admission = .rejected)
      (told : known = .settled none ∨ known = .taken) : Standing task admission [] [] known
  | waiting (admitted : admission ≠ .rejected) : Standing task admission [task] [] .pending
  | finished {known : Handle} (admitted : admission ≠ .rejected) (outcome : Option Report)
      (told : known = .settled outcome ∨ known = .taken) :
      Standing task admission [] [(task, outcome)] known

theorem Standing.perm {tasks others : List Task} {endings : List Ending}
    (standing : Standing task admission tasks endings known) (same : others ~ tasks) :
    Standing task admission others endings known := by
  cases standing with
  | rejected rejected told => exact same.eq_nil ▸ .rejected rejected told
  | waiting admitted => exact same.eq_singleton ▸ .waiting admitted
  | finished admitted outcome told => exact same.eq_nil ▸ .finished admitted outcome told

theorem Standing.finish {other : Task} {outcome : Option Report} {tasks others : List Task}
    {endings : List Ending} (standing : Standing task admission tasks endings known)
    (part : other :: others ~ tasks) :
    Standing task admission others (endings ++ [(other, outcome)]) (.settled outcome) := by
  cases standing with
  | rejected rejected told => cases part.eq_nil
  | waiting admitted =>
    cases part.eq_singleton
    exact .finished admitted outcome (.inl rfl)
  | finished admitted outcome told => cases part.eq_nil

theorem Standing.take {tasks : List Task} {endings : List Ending} {outcome : Option Report}
    (standing : Standing task admission tasks endings (.settled outcome)) :
    Standing task admission tasks endings .taken := by
  cases standing with
  | rejected rejected told => exact .rejected rejected (.inr rfl)
  | finished admitted outcome told => exact .finished admitted outcome (.inr rfl)

theorem Standing.pending_iff {tasks : List Task} {endings : List Ending}
    (standing : Standing task admission tasks endings known) :
    known = .pending ↔ task ∈ tasks := by
  cases standing with
  | rejected rejected told => rcases told with rfl | rfl <;> simp
  | waiting admitted => simp
  | finished admitted outcome told => rcases told with rfl | rfl <;> simp

theorem Standing.settled {tasks : List Task} {endings : List Ending} {outcome : Option Report}
    (standing : Standing task admission tasks endings (.settled outcome)) :
    admission = .rejected ∧ endings = [] ∧ outcome = none ∨
      admission ≠ .rejected ∧ endings = [(task, outcome)] := by
  cases standing with
  | rejected rejected told =>
    rcases told with same | taken
    · cases same
      exact .inl ⟨rejected, rfl, rfl⟩
    · cases taken
  | finished admitted outcome told =>
    rcases told with same | taken
    · cases same
      exact .inr ⟨admitted, rfl⟩
    · cases taken

/-- Every request stands somehow, and no task has a handle that is still to be given out. -/
structure Accounted (asked : List (Task × Option Pool.Admission)) (ended : List Ending)
    (e : Engine) : Prop where
  standing : ∀ task admission handle, (task, some admission) ∈ asked → task.handle = some handle →
    ∃ known, e.handles[handle]? = some known ∧
      Standing task admission (tasksAt handle e.pool.unfinished) (endedAt handle ended) known
  jobs : ∀ job ∈ e.pool.unfinished, ∀ handle, job.task.handle = some handle →
    handle < e.handles.length
  endings : ∀ ending ∈ ended, ∀ handle, ending.1.handle = some handle → handle < e.handles.length

theorem getElem?_settledHandles_of_ne (task : Task) (outcome : Option Report)
    (handles : List Handle) (other : task.handle ≠ some handle) :
    (settledHandles task outcome handles)[handle]? = handles[handle]? := by
  unfold settledHandles
  split
  · rfl
  next own named =>
    have apart : own ≠ handle := fun same => other (same ▸ named)
    simp [apart]

theorem Accounted.kept (accounted : Accounted asked ended e) (handles : next.handles = e.handles)
    (tasks : next.pool.unfinished.map Job.task ~ e.pool.unfinished.map Job.task) :
    Accounted asked ended next := by
  refine ⟨?_, ?_, ?_⟩
  · intro task admission handle asked own
    obtain ⟨known, there, standing⟩ := accounted.standing task admission handle asked own
    rw [handles]
    exact ⟨known, there, standing.perm (tasks.filter _)⟩
  · intro job member handle own
    obtain ⟨other, there, same⟩ :=
      List.mem_map.1 (tasks.subset (List.mem_map_of_mem (f := Job.task) member))
    rw [handles]
    exact accounted.jobs other there handle (same ▸ own)
  · rw [handles]
    exact accounted.endings

theorem Accounted.ending {job : Job} {replies : List Job} {outcome : Option Report}
    (accounted : Accounted asked ended e)
    (handles : next.handles = settledHandles job.task outcome e.handles)
    (silent : ∀ reply ∈ replies, reply.task.handle = none)
    (parts : job :: next.pool.unfinished ~ replies ++ e.pool.unfinished) :
    Accounted asked (ended ++ [(job.task, outcome)]) next := by
  have length : next.handles.length = e.handles.length := by
    rw [handles, length_settledHandles]
  have before (other : Job) (member : other ∈ job :: next.pool.unfinished) (handle : Nat)
      (own : other.task.handle = some handle) : handle < e.handles.length := by
    rcases List.mem_append.1 (parts.subset member) with reply | there
    · rw [silent other reply] at own
      cases own
    · exact accounted.jobs other there handle own
  refine ⟨?_, ?_, ?_⟩
  · intro task admission handle asked own
    obtain ⟨known, there, standing⟩ := accounted.standing task admission handle asked own
    have unowned : tasksAt handle replies = [] := by
      apply tasksAt_eq_nil
      intro reply member
      rw [silent reply member]
      exact nofun
    have tasks := tasksAt_perm handle parts
    rw [tasksAt_append, unowned, List.nil_append, tasksAt_cons] at tasks
    rw [endedAt, List.filter_append, handles]
    by_cases mine : job.task.handle = some handle
    · rw [if_pos mine] at tasks
      have told : [(job.task, outcome)].filter (fun ending => ending.1.handle = some handle) =
          [(job.task, outcome)] := List.filter_cons_of_pos (by simpa using mine)
      rw [told]
      exact ⟨_, getElem?_settledHandles _ _ (List.getElem?_eq_some_iff.1 there).1 mine,
        standing.finish tasks⟩
    · rw [if_neg mine] at tasks
      have silent : [(job.task, outcome)].filter (fun ending => ending.1.handle = some handle) =
          [] := List.filter_cons_of_neg (by simpa using mine)
      rw [silent, List.append_nil, getElem?_settledHandles_of_ne _ _ _ mine]
      exact ⟨known, there, standing.perm tasks⟩
  · intro other member handle own
    rw [length]
    exact before other (List.mem_cons_of_mem _ member) handle own
  · intro ending member handle own
    rw [length]
    rcases List.mem_append.1 member with old | last
    · exact accounted.endings ending old handle own
    · cases List.mem_singleton.1 last
      exact before job (List.mem_cons_self ..) handle own

theorem Accounted.turned (accounted : Accounted asked ended e) (turn : b.turn e = some next) :
    Accounted (asked ++ (e.occurrences b).filterMap Occurrence.request?)
      (ended ++ (e.occurrences b).filterMap Occurrence.ending?) next := by
  rcases Backing.pool_turn_of_turn turn with
    ⟨pool, taken, turned, rfl⟩ | ⟨pool, job, _, taken, turned, ⟨waits, rfl⟩ | ⟨free, rfl⟩⟩
  · simp only [occurrences, taken, List.filterMap_nil, List.append_nil]
    exact accounted.kept rfl (turned.unfinished_perm.symm.map _)
  · simp only [occurrences, taken, waits, if_true, List.filterMap_nil, List.append_nil]
    -- The task that comes to wait is the one that was taken up.
    have parts := unfinished_waiting turned (.held job.task (e.targetsFor job))
    exact accounted.kept rfl (parts.map Job.task).cons_inv
  · have ended := b.ended_concluded (e.taking pool) job
    obtain ⟨replies, sent, intake⟩ := ended.intake
    have requests : (e.occurrences b).filterMap Occurrence.request? = [] := by
      simp [occurrences, taken, free, Occurrence.request?]
    have endings : (e.occurrences b).filterMap Occurrence.ending? =
        [(job.task, b.outcome (e.taking pool) job)] := by
      simp [occurrences, taken, free, Occurrence.ending?]
    rw [requests, endings, List.append_nil]
    refine accounted.ending ended.handles ?_ (ending_perm turned intake)
    intro reply member
    obtain ⟨_, _, rfl⟩ := sent reply member
    rfl

theorem Relayed.tasksAt_of_ne {answer : Option Pool.Admission}
    (relayed : e.Relayed task answer after) (other : task.handle ≠ some handle) :
    tasksAt handle after.pool.unfinished ~ tasksAt handle e.pool.unfinished := by
  rcases relayed.unfinished_perm with same | ⟨_, _, _, parts⟩
  · exact tasksAt_perm handle same
  · have apart : (Job.fresh task).task.handle ≠ some handle := other
    have tasks := tasksAt_perm handle parts
    rwa [tasksAt_cons, if_neg apart] at tasks

theorem Relayed.getElem?_handles {answer : Option Pool.Admission}
    (relayed : e.Relayed task answer after) (inside : handle < e.handles.length) :
    after.handles[handle]? = e.handles[handle]? := by
  cases relayed with
  | refused stopped => rfl
  | answered admission pool running submitted => exact List.getElem?_append_left inside

theorem Relayed.standing (relayed : e.Relayed task (some admission) after)
    (own : task.handle = some handle) (idle : tasksAt handle e.pool.unfinished = []) :
    Standing task admission (tasksAt handle after.pool.unfinished) [] (handleFor admission) := by
  cases relayed with
  | answered _ pool running submitted =>
    have tasks := tasksAt_perm handle submitted.unfinished_perm
    dsimp only
    split at tasks
    next rejected =>
      rw [idle] at tasks
      subst rejected
      exact (Standing.rejected rfl (.inl rfl)).perm tasks
    next admitted =>
      have own : (Job.fresh task).task.handle = some handle := own
      rw [tasksAt_cons, if_pos own, idle] at tasks
      have pending : handleFor admission = .pending := by
        unfold handleFor
        split
        · exact absurd rfl admitted
        · rfl
      rw [pending]
      exact (Standing.waiting admitted).perm tasks

theorem Accounted.unused (accounted : Accounted asked ended e) :
    tasksAt e.handles.length e.pool.unfinished = [] ∧ endedAt e.handles.length ended = [] := by
  constructor
  · apply tasksAt_eq_nil
    exact fun job member own => absurd (accounted.jobs job member _ own) (Nat.lt_irrefl _)
  · apply List.filter_eq_nil_iff.2
    intro ending member own
    exact absurd (accounted.endings ending member _ (of_decide_eq_true own)) (Nat.lt_irrefl _)

theorem Accounted.relayed {answer : Option Pool.Admission} (accounted : Accounted asked ended e)
    (new : task.handle = some e.handles.length) (relayed : e.Relayed task answer after) :
    Accounted (asked ++ [(task, answer)]) ended after := by
  have longer : e.handles.length ≤ after.handles.length := by
    rw [relayed.length_handles]
    exact Nat.le_add_right ..
  refine ⟨?_, ?_, ?_⟩
  · intro other admission handle asked own
    rcases List.mem_append.1 asked with before | last
    · obtain ⟨known, there, standing⟩ := accounted.standing other admission handle before own
      have inside := (List.getElem?_eq_some_iff.1 there).1
      have apart : task.handle ≠ some handle := by
        rw [new]
        exact fun same => Nat.ne_of_gt inside (Option.some.inj same)
      refine ⟨known, ?_, standing.perm (relayed.tasksAt_of_ne apart)⟩
      rw [relayed.getElem?_handles inside, there]
    · cases List.mem_singleton.1 last
      rw [new] at own
      cases own
      obtain ⟨idle, unheard⟩ := accounted.unused
      rw [unheard]
      refine ⟨handleFor admission, ?_, relayed.standing new idle⟩
      cases relayed
      simp
  · intro job member handle own
    rcases relayed.unfinished_perm with same | ⟨admitted, rfl, _, parts⟩
    · exact Nat.lt_of_lt_of_le (accounted.jobs job (same.subset member) handle own) longer
    · rcases List.mem_cons.1 (parts.subset member) with rfl | there
      · have mine : task.handle = some handle := own
        rw [new] at mine
        cases mine
        rw [relayed.length_handles]
        exact Nat.lt_succ_self _
      · exact Nat.lt_of_lt_of_le (accounted.jobs job there handle own) longer
  · exact fun ending member handle own =>
      Nat.lt_of_lt_of_le (accounted.endings ending member handle own) longer

theorem Outside.getElem?_handles (outside : e.Outside after)
    (there : e.handles[handle]? = some known) :
    after.handles[handle]? = some known ∨
      ∃ outcome, known = .settled outcome ∧ after.handles[handle]? = some .taken := by
  cases outside with
  | takeOutcome other =>
    unfold Engine.takeOutcome
    split
    next outcome settled =>
      by_cases same : other = handle
      · subst same
        rw [there] at settled
        cases settled
        right
        refine ⟨outcome, rfl, ?_⟩
        simp [(List.getElem?_eq_some_iff.1 there).1]
      · left
        rw [← there]
        exact List.getElem?_set_ne same
    next => exact .inl there
  | furnish site changed => exact .inl there
  | shut => exact .inl there
  | unlock => exact .inl there
  | pass ms => exact .inl there
  | setMaxWorkers n set => exact .inl there
  | setKeepAlive ms => exact .inl there
  | throughput => exact .inl there
  | stop => exact .inl there

theorem Accounted.outside (accounted : Accounted asked ended e) (outside : e.Outside after) :
    Accounted asked ended after := by
  have still := outside.still
  refine ⟨?_, ?_, ?_⟩
  · intro task admission handle asked own
    obtain ⟨known, there, standing⟩ := accounted.standing task admission handle asked own
    have standing := standing.perm (tasksAt_perm handle still.unfinished)
    rcases outside.getElem?_handles there with same | ⟨outcome, rfl, taken⟩
    · exact ⟨known, same, standing⟩
    · exact ⟨.taken, taken, standing.take⟩
  · rw [still.handles]
    exact fun job member => accounted.jobs job (still.unfinished.subset member)
  · rw [still.handles]
    exact accounted.endings

theorem ReachedBy.accounted (reached : ReachedBy course e) :
    Accounted (course.filterMap Occurrence.request?) (course.filterMap Occurrence.ending?) e := by
  induction reached with
  | new router deliverer gate keepsCopies keepsLog site launched =>
    obtain ⟨_, rfl⟩ := launched_eq launched
    exact ⟨fun _ _ _ asked => absurd asked List.not_mem_nil,
      List.forall_mem_nil _, List.forall_mem_nil _⟩
  | relay address stanza escalation before ih =>
    rw [List.filterMap_append, List.filterMap_append,
      List.filterMap_cons_none (f := Occurrence.ending?) rfl, List.filterMap_nil, List.append_nil]
    exact ih.relayed rfl (relayed_relay _ address stanza escalation)
  | turn backing before turn ih =>
    rw [List.filterMap_append, List.filterMap_append]
    exact ih.turned turn
  | outside before outside ih => exact ih.outside outside

theorem Reached.accounted (reached : Reached history e) :
    Accounted (history.filterMap Event.request?) (history.filterMap Event.ending?) e := by
  obtain ⟨course, backed, requests, endings⟩ := reached.reachedBy
  rw [← requests, ← endings]
  exact backed.accounted

end StanzaDelivery.Engine
