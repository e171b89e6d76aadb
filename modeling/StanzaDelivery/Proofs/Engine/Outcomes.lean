import StanzaDelivery.Proofs.Engine.Calls
import StanzaDelivery.Proofs.Engine.Isolation

/-! What an outcome tells about who got the stanza. A stanza reaches a session only where
routing attempted sessions, and the report of that says so. The outcome passes the report on,
unless the escalation of its faults ends badly: then the report is replaced by a failure, even
where some of the sessions have been reached. -/

namespace StanzaDelivery.Engine

open Handover

variable {history : List Event} {e next : Engine} {events : List Event}

/-- The escalation ended badly after sessions had been attempted, and not all of them well. -/
def Execution.Overruled (x : Execution) : Prop :=
  ∃ routed ending, x.resolution = .reported routed ∧ routed.verdict = .partialSuccess ∧
    ending ≠ .done ∧ x.outcome = some (escalated routed ending)

/-- Where nobody was attempted, nobody was reached. -/
structure Execution.Honest (x : Execution) : Prop where
  failure : ∀ report, x.outcome = some report → report.verdict = .failure →
    (∀ id, x.arrivals id = []) ∨ x.Overruled
  reached : ∀ id, x.arrivals id ≠ [] →
    ∃ report, x.outcome = some report ∧ (report.processed = true ∨ x.Overruled)

theorem routed_reported (e : Engine) (job : Job) :
    e.targetsFor job = [] ∨ ∃ faults, (e.routed job).1 = .reported (.attempted faults) := by
  by_cases nobody : e.targetsFor job = []
  · exact .inl nobody
  · exact .inr ⟨_, routed_attempted nobody⟩

theorem arrivals_eq_nil {job : Job} (nobody : e.targetsFor job = []) (id : SessionId) :
    (e.execution job).arrivals id = [] := by
  have same : (e.routed job).2.registry = e.site.registry := by
    rw [registry_routed, nobody]
    rfl
  have added : (e.execution job).arrivals id =
      ((e.routed job).2.registry.inbox id).drop (e.site.registry.inbox id).length := rfl
  rw [added, same, List.drop_length]

theorem outcomeOf_reported (task : Task) (report : Report) (e : Engine) :
    outcomeOf task (.reported report) e = some report ∨
      report.faults ≠ [] ∧ ∃ ending, ending ≠ .done ∧
        outcomeOf task (.reported report) e = some (escalated report ending) := by
  rw [outcomeOf, dealWith_eq]
  by_cases faulty : report.hasFaults = true
  · rw [if_pos faulty]
    dsimp only
    generalize (task.escalation.tryAll facilities task.stanza report.faults
      (faced task report e)).1 = ending
    by_cases well : ending = .done
    · rw [well]
      exact .inl rfl
    · exact .inr ⟨(hasFaults_iff report).1 faulty, ending, well, rfl⟩
  · rw [if_neg faulty]
    exact .inl rfl

theorem honest_execution (e : Engine) (job : Job) : (e.execution job).Honest := by
  rcases e.routed_reported job with nobody | ⟨faults, routed⟩
  · have unreached := arrivals_eq_nil nobody
    exact ⟨fun _ _ _ => .inl unreached, fun id reached => absurd (unreached id) reached⟩
  · have outcome : (e.execution job).outcome =
        outcomeOf job.task (.reported (.attempted faults)) { e with site := (e.routed job).2 } := by
      rw [← routed]
      rfl
    have either := outcomeOf_reported job.task (.attempted faults)
      { e with site := (e.routed job).2 }
    rw [← outcome] at either
    have overruled : faults ≠ [] ∧ (∃ ending, ending ≠ .done ∧
        (e.execution job).outcome = some (escalated (.attempted faults) ending)) →
          (e.execution job).Overruled := by
      rintro ⟨faulty, ending, bad, replaced⟩
      refine ⟨.attempted faults, ending, routed, ?_, bad, replaced⟩
      simp [Report.verdict, Report.attempted, faulty]
    refine ⟨?_, ?_⟩
    · intro report known failed
      rcases either with passed | replaced
      · rw [passed] at known
        cases known
        rw [Report.verdict_eq_failure_iff] at failed
        exact absurd failed.1 (by simp [Report.attempted])
      · exact .inr (overruled replaced)
    · intro id reached
      rcases either with passed | replaced
      · exact ⟨_, passed, .inl rfl⟩
      · have bad := overruled replaced
        obtain ⟨_, ending, _, same⟩ := replaced
        exact ⟨_, same, .inr bad⟩

theorem settled_turned (turned : e.Turned next events) {x : Execution}
    (executed : .executed x ∈ events) {handle : Nat} (inside : handle < e.handles.length)
    (own : x.task.handle = some handle) :
    next.handles[handle]? = some (.settled x.outcome) := by
  cases turned with
  | quiet pool turned => cases executed
  | waiting pool job began turned waits => cases executed
  | ending pool job began turned free =>
    have same : x = (e.taking pool).execution job := by
      rcases List.mem_cons.1 executed with here | later
      · cases here
        rfl
      · obtain ⟨_, _, _, _, other⟩ := eq_replied_of_mem later
        cases other
    subst same
    have handles : ((e.taking pool).concluded job).retire.handles =
        settledHandles job.task ((e.taking pool).execution job).outcome e.handles :=
      (kept_concluded (e.taking pool) job).handles
    rw [handles]
    exact getElem?_settledHandles _ _ inside own

/-- The outcome of a task gets to its handle in the very turn in which the task ends. If it is
a failure, no session was reached, and if a session was reached, it says that sessions were
attempted, unless the task's escalation ended badly after some of several sessions failed. -/
theorem failure_reaches_nobody_unless_overruled (reached : Reached history e) :
    (∀ x, .executed x ∈ history →
      (∀ report, x.outcome = some report → report.verdict = .failure →
        (∀ id, x.arrivals id = []) ∨ x.Overruled) ∧
      (∀ id, x.arrivals id ≠ [] →
        ∃ report, x.outcome = some report ∧ (report.processed = true ∨ x.Overruled))) ∧
    ∀ next, e.turn = some next → ∀ x, .executed x ∈ e.turnEvents →
      ∀ handle < e.handles.length, x.task.handle = some handle →
        next.handles[handle]? = some (.settled x.outcome) := by
  refine ⟨?_, ?_⟩
  · intro x executed
    have honest := reached.forall_executed honest_execution x executed
    exact ⟨honest.failure, honest.reached⟩
  · intro next turn x executed handle inside own
    exact settled_turned (turned_of_turn turn) executed inside own

/-- An account whose sessions are divided: one of them is authenticated, and one is not yet.
A presence stanza for it has an escalation that fails. -/
def dividedAccount : BareAddress := ⟨some "dave", "waddle.social"⟩

def dividedTask : Task where
  address := dividedAccount.toAddress
  stanza := .presence ⟨.available, some dividedAccount.toAddress, none, none, none⟩
  escalation := .single (.fail (.failed "no"))
  handle := some 0

def dividedSite : Site where
  registry :=
    let first := Registry.empty.register ⟨⟨dividedAccount, "a"⟩, .authenticated, 0, 16, true, []⟩
    (first.2.register ⟨⟨dividedAccount, "c"⟩, .authenticating, 0, 16, true, []⟩).2
  accounts := ⟨[], none⟩
  pending := .empty 0
  online := .empty 0
  sharesStore := false
  components := .empty

def dividedEngine : Engine :=
  (empty ⟨⟨"waddle.social", false⟩, false, false⟩ handoff none false false dividedSite
    (.empty ⟨1, 2, 1, 60000⟩)).relay dividedTask.address dividedTask.stanza
    dividedTask.escalation |>.2

theorem reached_divided : Reached [.asked dividedTask (some .started)] dividedEngine := by
  have new := Reached.new ⟨⟨"waddle.social", false⟩, false, false⟩ handoff none false false
    dividedSite launched_small ((Registry.Built.empty.register _).register _)
  exact new.relay dividedTask.address dividedTask.stanza dividedTask.escalation

theorem aim_divided :
    dividedEngine.router.policy.aim dividedEngine.site.registry dividedTask.address
      dividedTask.stanza = .sessions [0, 1] := by
  have ordered : dividedSite.registry.sessionsFor dividedTask.address =
      dividedSite.registry.ofAccount dividedAccount :=
    List.mergeSort_of_pairwise (by decide +kernel)
  change Routing.Aim.ofEntries (dividedSite.registry.sessionsFor dividedTask.address) = _
  rw [ordered]
  decide +kernel

theorem targetsFor_divided :
    dividedEngine.targetsFor (.fresh dividedTask) = [⟨0, true⟩, ⟨1, false⟩] := by
  rw [targetsFor, aim_divided]
  rfl

theorem turn_divided : dividedEngine.turn = some (run 1 dividedEngine) :=
  turn_eq_run_one rfl

theorem executed_divided :
    ∃ x, .executed x ∈ dividedEngine.turnEvents ∧ x.task = dividedTask ∧
      x.outcome = some (.failed (escalationFailed (.failed "no"))) ∧
      x.arrivals 0 = [dividedTask.stanza] := by
  let pool : Pool Job := Pool.begin { dividedEngine.pool with ready := [] }
  have taken : dividedEngine.pool.turn = some (pool, some (.fresh dividedTask)) := rfl
  refine ⟨_, executed_mem_turnEvents taken rfl, rfl, ?_, ?_⟩
  · have routed : ((dividedEngine.taking pool).routed (.fresh dividedTask)).1 =
        .reported (.attempted [notAuthenticated]) := by
      change (Router.carryOut dividedEngine.router handoff
        (dividedEngine.router.policy.aim dividedEngine.site.registry dividedTask.address
          dividedTask.stanza) dividedTask.address dividedTask.stanza dividedSite).1 = _
      rw [aim_divided]
      rfl
    change outcomeOf dividedTask ((dividedEngine.taking pool).routed (.fresh dividedTask)).1 _ = _
    rw [routed]
    rfl
  · have targets : (dividedEngine.taking pool).targetsFor (.fresh dividedTask) =
        [⟨0, true⟩, ⟨1, false⟩] := targetsFor_divided
    change arrivals dividedSite.registry
      ((dividedEngine.taking pool).routed (.fresh dividedTask)).2.registry 0 = _
    rw [registry_routed, targets]
    decide +kernel

theorem failure_reaches_nobody_unless_overruled_when_divided :
    ∃ history e x, Reached history e ∧ .executed x ∈ history ∧ x.Overruled := by
  obtain ⟨x, executed, task, outcome, arrived⟩ := executed_divided
  have reached := reached_divided.turn turn_divided
  have member := List.mem_append_right [.asked dividedTask (some .started)] executed
  have after := failure_reaches_nobody_unless_overruled reached
  obtain ⟨report, known, processed | overruled⟩ :=
    (after.1 x member).2 0 (by rw [arrived]; exact List.cons_ne_nil _ _)
  · rw [outcome] at known
    cases known
    cases processed
  · exact ⟨_, _, x, reached, member, overruled⟩

/-- The outcome is that of a stanza which reached nobody, but one session has been reached. -/
theorem failure_after_delivery :
    ∃ history e x report, Reached history e ∧ e.deliverer = handoff ∧ .executed x ∈ history ∧
      x.task.handle = some 0 ∧ e.handles[0]? = some (.settled (some report)) ∧
      report.verdict = .failure ∧ report.processed = false ∧ x.arrivals 0 = [x.task.stanza] := by
  obtain ⟨x, executed, task, outcome, arrived⟩ := executed_divided
  have turned := turned_of_turn turn_divided
  have own : x.task.handle = some 0 := by
    rw [task]
    rfl
  refine ⟨_, _, x, .failed (escalationFailed (.failed "no")), reached_divided.turn turn_divided,
    turned.lasting.deliverer, List.mem_append_right _ executed, own, ?_, rfl, rfl,
    by rw [arrived, task]⟩
  rw [settled_turned turned executed (by decide +kernel) own, outcome]

end StanzaDelivery.Engine
