import StanzaDelivery.Proofs.Engine.Handles
import StanzaDelivery.Proofs.Routing.Failures

/-! Outcomes that are empty. An outcome is empty if the request was rejected, if the stanza aims
nowhere, or if somebody crashes whom nobody holds up: a component, the verification of an account,
or whoever keeps stanzas or copies. Any other task that is carried out comes to a report, in which
whoever failed has left a fault, and the faults are escalated. -/

namespace StanzaDelivery.Engine

open Routing

variable {course : List Occurrence} {e next after : Engine} {b : Backing} {job : Job}
  {task : Task} {admission : Pool.Admission} {handle : Nat}

/-- Somebody who is called for the job fails with this fault. A crash of a session is a fault as
any other. -/
inductive FailsFor (b : Backing) (e : Engine) : Job → Fault → Prop
  | session {job : Job} {fault : Fault} (failed : FailsAmong e.deliverer job.task.stanza
      (e.targetsFor job) e.site.registry fault) : FailsFor b e job fault
  | component {task : Task} {domain : String} {fault : Fault}
      (aim : e.router.policy.aim e.site.registry task.address task.stanza = .component domain)
      (asked : e.router.knowsComponents = true)
      (refusing : e.site.components.component? domain = some (.refusing fault)) :
      FailsFor b e (.fresh task) fault
  | verification {task : Task} {fault : StorageFault} {after : Site}
      (aim : e.router.policy.aim e.site.registry task.address task.stanza = .nobody)
      (failed : b.verify task.address.bare e.site = (.given (.error fault), after)) :
      FailsFor b e (.fresh task) (.causedByStorage "account verification failed" fault)
  | receiver {task : Task} {fault : StorageFault} {between after : Site}
      (aim : e.router.policy.aim e.site.registry task.address task.stanza = .nobody)
      (known : b.verify task.address.bare e.site = (.given (.ok true), between))
      (asked : e.router.keepsOffline = true)
      (failed : b.receive task.stanza between = (.given (.error fault), after)) :
      FailsFor b e (.fresh task) (.causedByStorage "offline receiver rejected stanza" fault)

/-- Somebody who is called for the job crashes and takes the outcome with it. -/
inductive Crashes (b : Backing) (e : Engine) : Job → Prop
  | component {task : Task} (crashes : CrashesComponent e.router e.site task.address) :
      Crashes b e (.fresh task)
  | verification {task : Task} {after : Site}
      (aim : e.router.policy.aim e.site.registry task.address task.stanza = .nobody)
      (crashed : b.verify task.address.bare e.site = (.crashed, after)) :
      Crashes b e (.fresh task)
  | receiver {task : Task} {between after : Site}
      (aim : e.router.policy.aim e.site.registry task.address task.stanza = .nobody)
      (known : b.verify task.address.bare e.site = (.given (.ok true), between))
      (asked : e.router.keepsOffline = true)
      (crashed : b.receive task.stanza between = (.crashed, after)) : Crashes b e (.fresh task)
  | storage {job : Job} {report : Report} {between after : Site}
      (routed : b.routed e job = (.reported report, between)) (faulty : report.faults ≠ [])
      (keeps : e.keepsCopies = true) (alone : .storedOffline ∉ report.faults)
      (crashed : b.store job.task.stanza true between = (.crashed, after)) : Crashes b e job

theorem Backing.routed_of_aim {aim : Aim} (b : Backing)
    (aimed : e.router.policy.aim e.site.registry task.address task.stanza = aim)
    (somebody : aim ≠ .nobody) : b.routed e (.fresh task) = e.routed (.fresh task) := by
  rw [Backing.routed, aimed]
  split
  · exact absurd rfl somebody
  · rfl

theorem Backing.routed_of_nobody (b : Backing)
    (aim : e.router.policy.aim e.site.registry task.address task.stanza = .nobody) :
    b.routed e (.fresh task) =
      b.handleOffline e.router task.address.bare task.stanza e.site := by
  rw [Backing.routed, aim]

theorem Backing.handleOffline_ne_discarded (b : Backing) (router : Router) (account : BareAddress)
    (stanza : Stanza) (site : Site) :
    (b.handleOffline router account stanza site).1 ≠ .discarded := by
  unfold Backing.handleOffline
  rcases b.verify account site with ⟨⟨_ | _ | _⟩ | _, between⟩
  · exact nofun
  · exact nofun
  · dsimp only
    split
    · rcases b.receive stanza between with ⟨⟨_ | _⟩ | _, after⟩ <;> exact nofun
    · exact nofun
  · exact nofun

theorem routed_eq_discarded_iff (b : Backing) (e : Engine) (task : Task) :
    (b.routed e (.fresh task)).1 = .discarded ↔
      Dropped e.router.policy task.address task.stanza := by
  by_cases nobody : e.router.policy.aim e.site.registry task.address task.stanza = .nobody
  · rw [b.routed_of_nobody nobody, ← aim_eq_nowhere_iff (r := e.site.registry), nobody]
    exact ⟨fun dropped => (b.handleOffline_ne_discarded _ _ _ _ dropped).elim, nofun⟩
  · rw [b.routed_of_aim rfl nobody]
    exact resolve_eq_discarded_iff ..

theorem Backing.handleOffline_eq_crashed_iff (b : Backing) (router : Router)
    (account : BareAddress) (stanza : Stanza) (site : Site) :
    (b.handleOffline router account stanza site).1 = .crashed ↔
      (∃ after, b.verify account site = (.crashed, after)) ∨
        ∃ between after, b.verify account site = (.given (.ok true), between) ∧
          router.keepsOffline = true ∧ b.receive stanza between = (.crashed, after) := by
  unfold Backing.handleOffline
  rcases b.verify account site with ⟨⟨_ | _ | _⟩ | _, between⟩
  · simp
  · simp
  · cases router.keepsOffline with
    | false => simp
    | true => rcases receive : b.receive stanza between with ⟨⟨_ | _⟩ | _, after⟩ <;> simp [receive]
  · simp

theorem crashes_of_routed (crashed : (b.routed e job).1 = .crashed) : Crashes b e job := by
  cases job with
  | held task targets => cases crashed
  | fresh task =>
    by_cases nobody : e.router.policy.aim e.site.registry task.address task.stanza = .nobody
    · rw [b.routed_of_nobody nobody, b.handleOffline_eq_crashed_iff] at crashed
      rcases crashed with ⟨_, verify⟩ | ⟨_, _, known, asked, receive⟩
      · exact .verification nobody verify
      · exact .receiver nobody known asked receive
    · rw [b.routed_of_aim rfl nobody] at crashed
      exact .component ((resolve_eq_crashed_iff ..).1 crashed)

theorem FailsFor.reported {fault : Fault} (failed : FailsFor b e job fault) :
    ∃ report, (b.routed e job).1 = .reported report ∧ fault ∈ report.faults := by
  cases failed with
  | session failed =>
    cases job with
    | held task targets => exact ⟨_, rfl, failed.mem_faults⟩
    | fresh task =>
      cases aim : e.router.policy.aim e.site.registry task.address task.stanza with
      | sessions ids =>
        rw [b.routed_of_aim aim (by simp)]
        rw [targetsFor, aim] at failed
        exact Fails.reported (.session aim failed)
      | _ =>
        rw [targetsFor, aim] at failed
        obtain ⟨before, target, rest, _, none, _⟩ := failed
        exact absurd (List.append_eq_nil_iff.1 none.symm).2 (List.cons_ne_nil target rest)
  | component aim asked refusing =>
    rw [b.routed_of_aim aim (by simp)]
    exact Fails.reported (.component aim asked refusing)
  | verification aim failed =>
    rw [b.routed_of_nobody aim, Backing.handleOffline, failed]
    exact ⟨_, rfl, List.mem_singleton_self _⟩
  | receiver aim known asked failed =>
    rw [b.routed_of_nobody aim, Backing.handleOffline, known]
    dsimp only
    rw [if_pos asked, failed]
    exact ⟨_, rfl, List.mem_singleton_self _⟩

theorem keepCopy_eq_true_iff (b : Backing) (stanza : Stanza) (report : Report) (e : Engine) :
    (b.keepCopy stanza report e).1 = true ↔ e.keepsCopies = true ∧
      .storedOffline ∉ report.faults ∧ (b.store stanza true e.site).1 = .crashed := by
  rw [← contains_storedOffline_iff, Backing.keepCopy]
  cases e.keepsCopies with
  | false => simp
  | true =>
    cases report.contains .storedOffline with
    | true => simp
    | false => rcases b.store stanza true e.site with ⟨_ | _, after⟩ <;> simp

theorem outcome_of_routed_crashed (crashed : (b.routed e job).1 = .crashed) :
    b.outcome e job = none := by
  rw [Backing.outcome]
  split
  next report site routed =>
    rw [routed] at crashed
    cases crashed
  next => rfl
  next => rfl

theorem outcome_eq_none_iff (b : Backing) (e : Engine) (job : Job) :
    b.outcome e job = none ↔ (b.routed e job).1 = .discarded ∨ Crashes b e job := by
  constructor
  · intro none
    rcases routed : b.routed e job with ⟨resolution, between⟩
    cases resolution with
    | discarded => exact .inl rfl
    | crashed => exact .inr (crashes_of_routed (congrArg Prod.fst routed))
    | reported report =>
      right
      simp only [Backing.outcome, routed, Backing.dealWith] at none
      by_cases faulty : report.hasFaults = true
      · rw [if_pos faulty] at none
        split at none
        next after copied =>
          obtain ⟨keeps, alone, crashed⟩ :=
            (keepCopy_eq_true_iff ..).1 (congrArg Prod.fst copied)
          exact .storage routed ((hasFaults_iff report).1 faulty) keeps alone
            (Prod.ext crashed rfl)
        next => cases none
      · rw [if_neg faulty] at none
        cases none
  · rintro (discarded | crashes)
    · rw [Backing.outcome]
      split
      next report site routed =>
        rw [routed] at discarded
        cases discarded
      next => rfl
      next => rfl
    · cases crashes with
      | @component task crashes =>
        apply outcome_of_routed_crashed
        have aim : e.router.policy.aim e.site.registry task.address task.stanza ≠
            .nobody := by
          rw [aim_eq_component_iff.2 ⟨crashes.1, crashes.2.1, rfl⟩]
          simp
        rw [b.routed_of_aim rfl aim]
        exact (resolve_eq_crashed_iff ..).2 crashes
      | verification aim crashed =>
        apply outcome_of_routed_crashed
        rw [b.routed_of_nobody aim, b.handleOffline_eq_crashed_iff]
        exact .inl ⟨_, crashed⟩
      | receiver aim known asked crashed =>
        apply outcome_of_routed_crashed
        rw [b.routed_of_nobody aim, b.handleOffline_eq_crashed_iff]
        exact .inr ⟨_, _, known, asked, crashed⟩
      | @storage _ report between after routed faulty keeps alone crashed =>
        let counted : Engine :=
          { e with site := between, metrics := e.metrics.countFaults report.faults }
        have copied : (b.keepCopy job.task.stanza report counted).1 = true :=
          (keepCopy_eq_true_iff ..).2 ⟨keeps, alone, congrArg Prod.fst crashed⟩
        simp only [Backing.outcome, routed, Backing.dealWith]
        rw [if_pos ((hasFaults_iff report).2 faulty)]
        split
        next => rfl
        next kept =>
          have missed := (congrArg Prod.fst kept).symm.trans copied
          cases missed

theorem escalated_of_not_crashes (whole : ¬Crashes b e job) {report : Report} {between : Site}
    (routed : b.routed e job = (.reported report, between)) :
    (report.faults = [] → b.outcome e job = some report) ∧
    (report.faults ≠ [] → ∃ ready ending tried,
      job.task.escalation.tryAll facilities job.task.stanza report.faults ready = (ending, tried) ∧
      b.outcome e job = some (escalated report ending) ∧
      b.concluded e job = complete job.task (some (escalated report ending)) tried) := by
  simp only [Backing.outcome, Backing.concluded, routed, Backing.conclude, Backing.dealWith]
  refine ⟨?_, ?_⟩
  · intro flawless
    have none : ¬report.hasFaults = true := fun some => (hasFaults_iff report).1 some flawless
    rw [if_neg none]
  · intro faulty
    rw [if_pos ((hasFaults_iff report).2 faulty)]
    split
    next after copied =>
      obtain ⟨keeps, alone, crashed⟩ := (keepCopy_eq_true_iff ..).1 (congrArg Prod.fst copied)
      exact absurd (.storage routed faulty keeps alone (Prod.ext crashed rfl)) whole
    next ready copied => exact ⟨ready, _, _, rfl, rfl, rfl⟩

theorem not_dropped_of_waits (waits : e.waits job = true) :
    ¬Dropped e.router.policy job.task.address job.task.stanza := by
  cases job with
  | held task targets => cases waits
  | fresh task =>
    rw [Engine.waits, targetsFor] at waits
    split at waits
    next ids aim => exact (home_of_aim aim).2
    next => simp [mustWait] at waits

/-- A stanza is discarded if it is dropped, and no such task waits. -/
structure Explained (course : List Occurrence) (e : Engine) : Prop where
  held : ∀ task targets, .held task targets ∈ e.pool.unfinished →
    ¬Dropped e.router.policy task.address task.stanza
  carried : ∀ b f job, .carried b f job ∈ course →
    ((b.routed f job).1 = .discarded ↔
      Dropped e.router.policy job.task.address job.task.stanza)

theorem Explained.discarded_iff (explained : Explained course e) (b : Backing)
    (there : job ∈ e.pool.unfinished) (pool : Pool Job) :
    (b.routed (e.taking pool) job).1 = .discarded ↔
      Dropped e.router.policy job.task.address job.task.stanza := by
  cases job with
  | fresh task => exact routed_eq_discarded_iff b (e.taking pool) task
  | held task targets =>
    exact ⟨nofun, fun dropped => absurd dropped (explained.held task targets there)⟩

theorem Explained.turned (explained : Explained course e) (turn : b.turn e = some next) :
    Explained (course ++ e.occurrences b) next := by
  rcases Backing.pool_turn_of_turn turn with
    ⟨pool, taken, turned, rfl⟩ | ⟨pool, job, _, taken, turned, ⟨waits, rfl⟩ | ⟨free, rfl⟩⟩
  · simp only [occurrences, taken, List.append_nil]
    exact ⟨fun task targets member =>
      explained.held task targets (turned.unfinished_perm.symm.subset member), explained.carried⟩
  · simp only [occurrences, taken, waits, if_true, List.append_nil]
    refine ⟨?_, explained.carried⟩
    intro task targets member
    have either := (unfinished_waiting turned _).subset (List.mem_cons_of_mem _ member)
    rcases List.mem_cons.1 either with held | old
    · cases held
      exact not_dropped_of_waits waits
    · exact explained.held task targets old
  · have ended := b.ended_concluded (e.taking pool) job
    obtain ⟨replies, sent, intake⟩ := ended.intake
    have parts := ending_perm turned intake
    have there : job ∈ e.pool.unfinished :=
      turned.unfinished_perm.symm.subset (List.mem_cons_self ..)
    have router : (b.concluded (e.taking pool) job).retire.router = e.router := ended.router
    simp only [occurrences, taken, free, Bool.false_eq_true, if_false]
    refine ⟨?_, ?_⟩
    · intro task targets member
      rw [router]
      rcases List.mem_append.1 (parts.subset (List.mem_cons_of_mem _ member)) with reply | old
      · obtain ⟨_, _, same⟩ := sent _ reply
        cases same
      · exact explained.held task targets old
    · intro backing f other member
      rw [router]
      rcases List.mem_append.1 member with before | last
      · exact explained.carried backing f other before
      · cases List.mem_singleton.1 last
        exact explained.discarded_iff b there pool

theorem Explained.changed {later : List Occurrence} (explained : Explained course e)
    (router : after.router = e.router)
    (held : ∀ task targets, .held task targets ∈ after.pool.unfinished →
      .held task targets ∈ e.pool.unfinished)
    (carried : ∀ b f job, .carried b f job ∈ later → .carried b f job ∈ course) :
    Explained later after := by
  refine ⟨?_, ?_⟩
  · intro task targets member
    rw [router]
    exact explained.held task targets (held task targets member)
  · intro b f job member
    rw [router]
    exact explained.carried b f job (carried b f job member)

theorem ReachedBy.explained (reached : ReachedBy course e) : Explained course e := by
  induction reached with
  | new router deliverer gate keepsCopies keepsLog site launched =>
    obtain ⟨_, rfl⟩ := launched_eq launched
    exact ⟨fun _ _ member => absurd member List.not_mem_nil,
      fun _ _ _ member => absurd member List.not_mem_nil⟩
  | @relay course e address stanza escalation before ih =>
    have relayed := relayed_relay e address stanza escalation
    refine ih.changed relayed.equipment.1 (fun _ _ member => relayed.held_before member) ?_
    intro b f job member
    rcases List.mem_append.1 member with old | new
    · exact old
    · cases List.mem_singleton.1 new
  | turn backing before turn ih => exact ih.turned turn
  | outside before outside ih =>
    have still := outside.still
    exact ih.changed still.router (fun _ _ member => still.unfinished.subset member)
      fun _ _ _ carried => carried

theorem ReachedBy.at_handle (reached : ReachedBy course e)
    (asked : .asked task (some admission) ∈ course) (own : task.handle = some handle) :
    ∃ known, e.handles[handle]? = some known ∧
      (known = .pending ↔ ∃ job ∈ e.pool.unfinished, job.task = task) ∧
      ∀ outcome, known = .settled outcome →
        (∀ b f job, .carried b f job ∈ course → job.task = task → outcome = b.outcome f job) ∧
        (outcome = none ↔ admission = .rejected ∨
          Dropped e.router.policy task.address task.stanza ∨
          ∃ b f job, .carried b f job ∈ course ∧ job.task = task ∧ Crashes b f job) := by
  have explained := reached.explained
  obtain ⟨known, there, standing⟩ := reached.accounted.standing task admission handle
    (List.mem_filterMap.2 ⟨_, asked, rfl⟩) own
  refine ⟨known, there, ?_, ?_⟩
  · rw [standing.pending_iff, mem_tasksAt]
    exact and_iff_left own
  · rintro outcome rfl
    have mem (b : Backing) (f : Engine) (job : Job) (carried : .carried b f job ∈ course)
        (same : job.task = task) :
        (task, b.outcome f job) ∈ endedAt handle (course.filterMap Occurrence.ending?) :=
      mem_endedAt.2 ⟨List.mem_filterMap.2 ⟨_, carried, by rw [Occurrence.ending?, same]⟩, own⟩
    rcases standing.settled with ⟨rejected, none, empty⟩ | ⟨admitted, one⟩
    · rw [none] at mem
      refine ⟨fun b f job carried same =>
        absurd (mem b f job carried same) List.not_mem_nil, ?_⟩
      simp [rejected, empty]
    · have told (b : Backing) (f : Engine) (job : Job) (carried : .carried b f job ∈ course)
          (same : job.task = task) : outcome = b.outcome f job := by
        have only := one ▸ mem b f job carried same
        exact (congrArg Prod.snd (List.mem_singleton.1 only)).symm
      refine ⟨told, ?_⟩
      obtain ⟨ended, _⟩ := mem_endedAt.1 (one ▸ List.mem_singleton_self (task, outcome))
      obtain ⟨occurrence, member, found⟩ := List.mem_filterMap.1 ended
      cases occurrence with
      | asked other answer => cases found
      | carried b f job =>
        cases found
        have discarded := explained.carried b f job member
        rw [outcome_eq_none_iff, discarded]
        constructor
        · rintro (dropped | crashes)
          · exact .inr (.inl dropped)
          · exact .inr (.inr ⟨b, f, job, member, rfl, crashes⟩)
        · rintro (rejected | dropped | ⟨c, g, other, carried, same, crashes⟩)
          · exact absurd rejected admitted
          · exact .inl dropped
          · have empty := (outcome_eq_none_iff c g other).2 (.inr crashes)
            rw [← told c g other carried same] at empty
            rw [← discarded]
            exact (outcome_eq_none_iff b f job).1 empty

/-- Whoever backs the engine in each of its turns, the handle of a request is pending exactly as
long as its task is not over, and then it gets to know the outcome. That is empty only if the
request was rejected, if its stanza is an error message for a bare address of the local domain, or
if a component, the verification of the account, or whoever keeps stanzas or copies crashed. Any
other failure of somebody who is called is a fault of the report, and the faults of a report are
escalated. An engine that is backed by its own site is the engine as it is. -/
theorem empty_outcomes_are_explained_unless_crashed (reached : ReachedBy course e) :
    (∀ task admission handle, .asked task (some admission) ∈ course →
      task.handle = some handle →
      ∃ known, e.handles[handle]? = some known ∧
        (known = .pending ↔ ∃ job ∈ e.pool.unfinished, job.task = task) ∧
        ∀ outcome, known = .settled outcome →
          (∀ b f job, .carried b f job ∈ course → job.task = task → outcome = b.outcome f job) ∧
          (outcome = none ↔ admission = .rejected ∨
            Dropped e.router.policy task.address task.stanza ∨
            ∃ b f job, .carried b f job ∈ course ∧ job.task = task ∧ Crashes b f job)) ∧
    (∀ b f job, .carried b f job ∈ course →
      (∀ fault, FailsFor b f job fault →
        ∃ report, (b.routed f job).1 = .reported report ∧ fault ∈ report.faults) ∧
      (¬Crashes b f job → ∀ report between, b.routed f job = (.reported report, between) →
        (report.faults = [] → b.outcome f job = some report) ∧
        (report.faults ≠ [] → ∃ ready ending tried,
          job.task.escalation.tryAll facilities job.task.stanza report.faults ready =
            (ending, tried) ∧
          b.outcome f job = some (escalated report ending) ∧
          b.concluded f job = complete job.task (some (escalated report ending)) tried))) ∧
    ∀ f : Engine, Backing.own.turn f = f.turn := by
  refine ⟨?_, ?_, Backing.turn_own⟩
  · exact fun task admission handle asked own => reached.at_handle asked own
  · intro b f job _
    exact ⟨fun fault failed => failed.reported,
      fun whole report between routed => escalated_of_not_crashes whole routed⟩

/-- A conference room, whose component crashes, and a user who is not there. -/
def room : BareAddress := ⟨some "room", "muc.waddle.social"⟩

def absentee : BareAddress := ⟨some "carol", "waddle.social"⟩

def chatTo (account : BareAddress) : Task where
  address := account.toAddress
  stanza := .message ⟨.chat, some account.toAddress, none, none, none, none⟩
  escalation := .single .note
  handle := some 0

def emptySite : Site where
  registry := .empty
  accounts := ⟨[], none⟩
  pending := .empty 0
  online := .empty 0
  sharesStore := false
  components := Components.empty.register room.domain .crashing

def engineFor (account : BareAddress) : Engine :=
  (empty ⟨⟨"waddle.social", false⟩, false, true⟩ Handover.handoff none false false emptySite
    (.empty ⟨1, 2, 1, 60000⟩)).relay (chatTo account).address (chatTo account).stanza
    (chatTo account).escalation |>.2

theorem empty_outcomes_are_explained_unless_crashed_at_absentee :
    ∃ course e, ReachedBy course e ∧ .asked (chatTo absentee) (some .started) ∈ course ∧
      e.handles[0]? = some (.settled none) ∧ e.notes = [] ∧
      ∃ b f job, .carried b f job ∈ course ∧ job.task = chatTo absentee ∧ Crashes b f job := by
  let b : Backing := { Backing.own with verify := fun _ site => (.crashed, site) }
  have asked : ReachedBy [.asked (chatTo absentee) (some .started)] (engineFor absentee) :=
    (ReachedBy.new ⟨⟨"waddle.social", false⟩, false, true⟩ Handover.handoff none false false
      emptySite launched_small).relay _ _ _
  obtain ⟨next, turn, empty, unnoted⟩ : ∃ next, b.turn (engineFor absentee) = some next ∧
      next.handles[0]? = some (.settled none) ∧ next.notes = [] :=
    ⟨_, rfl, by decide +kernel, by decide +kernel⟩
  have reached := asked.turn b turn
  obtain ⟨handles, _⟩ := empty_outcomes_are_explained_unless_crashed reached
  obtain ⟨known, there, _, explained⟩ :=
    handles (chatTo absentee) .started 0 (List.mem_cons_self ..) rfl
  rw [empty] at there
  cases there
  refine ⟨_, _, reached, List.mem_cons_self .., empty, unnoted, ?_⟩
  rcases (explained none rfl).2.1 rfl with rejected | ⟨_, _, error⟩ | crashes
  · cases rejected
  · cases error
  · exact crashes

/-- A component that crashes leaves the outcome empty. The request was not rejected, its stanza
is no error message for a bare address, and the escalation, which writes down that it was
called, was not. -/
theorem crashed_component_is_silent :
    ∃ history e, Reached history e ∧ .asked (chatTo room) (some .started) ∈ history ∧
      ¬Dropped e.router.policy (chatTo room).address (chatTo room).stanza ∧
      (chatTo room).escalation = .single .note ∧ e.handles[0]? = some (.settled none) ∧
      e.pool.unfinished = [] ∧ e.notes = [] := by
  have asked : Reached [.asked (chatTo room) (some .started)] (engineFor room) :=
    (Reached.new ⟨⟨"waddle.social", false⟩, false, true⟩ Handover.handoff none false false
      emptySite launched_small .empty).relay _ _ _
  refine ⟨_, run 1 (engineFor room), asked.turn (turn_eq_run_one rfl),
    List.mem_cons_self .., ?_, rfl, ?_, ?_, ?_⟩
  · rintro ⟨_, _, error⟩
    cases error
  · rfl
  · rfl
  · rfl

end StanzaDelivery.Engine
