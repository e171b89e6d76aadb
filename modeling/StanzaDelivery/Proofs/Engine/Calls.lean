import StanzaDelivery.Proofs.Engine.Work

/-! Whom an engine calls when a task has been routed. Faults are counted one by one, a copy
is kept where copies are kept, and the task's escalation is tried, in this order and each of
them once; without faults nobody is called. A copy that cannot be kept makes no difference. -/

namespace StanzaDelivery.Engine

inductive Call
  | counted (kind : FaultKind)
  | copied (stanza : Stanza) (viewed : Bool) (answer : Except StorageFault Unit)
  | escalated (stanza : Stanza) (faults : List Fault) (ending : Escalation.Ending)

inductive Called (escalation : Escalation) (e : Engine) : Call → Engine → Prop
  | counted (kind : FaultKind) :
      Called escalation e (.counted kind) { e with metrics := e.metrics.countFault kind }
  | copied (stanza : Stanza) (viewed : Bool) :
      Called escalation e (.copied stanza viewed (e.site.insert .online stanza viewed).1)
        { e with site := (e.site.insert .online stanza viewed).2 }
  | escalated (stanza : Stanza) (faults : List Fault) :
      Called escalation e
        (.escalated stanza faults (escalation.tryAll facilities stanza faults e).1)
        (escalation.tryAll facilities stanza faults e).2

inductive Calls (escalation : Escalation) : Engine → List Call → Engine → Prop
  | none (e : Engine) : Calls escalation e [] e
  | call {e f g : Engine} {call : Call} {calls : List Call} (called : Called escalation e call f)
      (rest : Calls escalation f calls g) : Calls escalation e (call :: calls) g

variable {escalation : Escalation} {e f g : Engine}

theorem Calls.append {calls others : List Call} (first : Calls escalation e calls f)
    (second : Calls escalation f others g) : Calls escalation e (calls ++ others) g := by
  induction first with
  | none e => exact second
  | call called rest ih => exact .call called (ih second)

theorem Calls.single {call : Call} (called : Called escalation e call f) :
    Calls escalation e [call] f :=
  .call called (.none f)

theorem calls_counted (escalation : Escalation) (faults : List Fault) (e : Engine) :
    Calls escalation e (faults.map fun fault => .counted fault.kind)
      { e with metrics := e.metrics.countFaults faults } := by
  induction faults generalizing e with
  | nil => exact .none e
  | cons fault rest ih => exact .call (.counted fault.kind) (ih _)

def copying (stanza : Stanza) (report : Report) (e : Engine) : List Call :=
  if e.keepsCopies && !report.contains .storedOffline then
    [.copied stanza true (e.site.insert .online stanza true).1]
  else []

theorem calls_keepCopy (escalation : Escalation) (stanza : Stanza) (report : Report)
    (e : Engine) :
    Calls escalation e (copying stanza report e) (keepCopy stanza report e) := by
  unfold copying keepCopy
  split
  · exact .single (.copied stanza true)
  · exact .none e

theorem contains_storedOffline_iff (report : Report) :
    report.contains .storedOffline = true ↔ .storedOffline ∈ report.faults := by
  simp only [Report.contains, Report.kinds, List.contains_iff_mem, List.mem_map]
  constructor
  · rintro ⟨fault, member, kind⟩
    rwa [(Fault.isStoredOffline_iff fault).1 (by simp [Fault.isStoredOffline, kind])] at member
  · intro member
    exact ⟨_, member, rfl⟩

theorem copying_cases (stanza : Stanza) (report : Report) (e : Engine) :
    (e.keepsCopies = true ∧ .storedOffline ∉ report.faults ∧
        ∃ answer, copying stanza report e = [.copied stanza true answer]) ∨
      ((e.keepsCopies = false ∨ .storedOffline ∈ report.faults) ∧
        copying stanza report e = []) := by
  rw [← contains_storedOffline_iff]
  unfold copying
  cases keeps : e.keepsCopies <;> cases kept : report.contains .storedOffline <;> simp

theorem hasFaults_iff (report : Report) : report.hasFaults = true ↔ report.faults ≠ [] := by
  simp [Report.hasFaults]

theorem dealWith_of_nil (task : Task) {report : Report} (flawless : report.faults = [])
    (e : Engine) : dealWith task report e = (report, e) := by
  rw [dealWith_eq, if_neg]
  rw [hasFaults_iff]
  exact fun faulty => faulty flawless

/-- These are the calls that the faults of a report lead to, and the outcome is what comes of
them: each fault is counted by its kind, a copy is kept where copies are kept and none waits
offline, and the escalation is tried with the task's own stanza and all the faults. The
outcome is the report if that ends well, and a single failure if not, which holds the fault
of the escalation with all its causes. -/
def Escalates (task : Task) (report : Report) (keepsCopies : Bool) (calls : List Call)
    (outcome : Option Report) : Prop :=
  ∃ copies ending,
    calls = report.faults.map (fun fault => .counted fault.kind) ++ copies ++
      [.escalated task.stanza report.faults ending] ∧
    (keepsCopies = true ∧ .storedOffline ∉ report.faults ∧
        (∃ answer, copies = [.copied task.stanza true answer]) ∨
      (keepsCopies = false ∨ .storedOffline ∈ report.faults) ∧ copies = []) ∧
    (ending = .done → outcome = some report) ∧
    (∀ fault, ending = .fault fault →
      ∃ wrapped, outcome = some (.failed wrapped) ∧ wrapped.kind = .failed ∧
        wrapped.causes = fault.message :: fault.causes) ∧
    (ending = .crashed → ∃ failed, outcome = some (.failed failed) ∧ failed.kind = .failed)

theorem calls_dealWith (task : Task) {report : Report} (faulty : report.faults ≠ [])
    (e : Engine) :
    ∃ calls, Calls task.escalation e calls (dealWith task report e).2 ∧
      Escalates task report e.keepsCopies calls (some (dealWith task report e).1) := by
  rw [dealWith_eq, if_pos ((hasFaults_iff report).2 faulty)]
  let counted : Engine := { e with metrics := e.metrics.countFaults report.faults }
  have counts := calls_counted task.escalation report.faults e
  have copies := calls_keepCopy task.escalation task.stanza report counted
  have last : Calls task.escalation (faced task report e) _ _ :=
    .single (.escalated task.stanza report.faults)
  refine ⟨_, (counts.append copies).append last, _, _, rfl,
    copying_cases task.stanza report counted, ?_, ?_, ?_⟩
  · intro ending
    simp only [ending, escalated]
  · intro fault ending
    simp only [ending, escalated]
    exact ⟨_, rfl, rfl, rfl⟩
  · intro ending
    simp only [ending, escalated]
    exact ⟨_, rfl, rfl⟩

theorem insert_eq_of_error {site : Site} {shelf : Shelf} {stanza : Stanza} {viewed : Bool}
    {fault : StorageFault} (refused : (site.insert shelf stanza viewed).1 = .error fault) :
    (site.insert shelf stanza viewed).2 = site := by
  have same : ((site.store shelf).insert stanza viewed).2 = site.store shelf := by
    change ((site.store shelf).insert stanza viewed).1 = .error fault at refused
    unfold StanzaStore.insert at refused ⊢
    split
    · rfl
    next recipient addressed =>
      simp only [addressed] at refused
      split
      next room =>
        rw [if_pos room] at refused
        cases refused
      next => rfl
  change site.withStore shelf ((site.store shelf).insert stanza viewed).2 = site
  rw [same]
  cases shelf with
  | pending => rfl
  | online =>
    unfold Site.withStore Site.store
    dsimp only
    by_cases shared : site.sharesStore = true
    · rw [if_pos shared, if_pos shared]
    · rw [if_neg shared, if_neg shared]

theorem facilities_agree (keeps : Bool) :
    facilities.Agree facilities fun e f => e = { f with keepsCopies := keeps } := by
  have offers : ∀ (f : Engine) (task : Task),
      ({ f with keepsCopies := keeps }).offer task =
        ((f.offer task).1, { (f.offer task).2 with keepsCopies := keeps }) := by
    intro f task
    unfold offer
    dsimp only
    by_cases running : f.running = true
    · rw [if_pos running, if_pos running]
      cases f.pool.submit (.fresh task) <;> rfl
    · rw [if_neg running, if_neg running]
  refine ⟨?_, ?_, ?_⟩
  · rintro destination reply e f rfl
    constructor <;> simp only [facilities, sendReply_eq, offers]
  · rintro stanza e f rfl
    exact ⟨rfl, rfl⟩
  · rintro stanza faults e f rfl
    rfl

theorem dealWith_of_refused {task : Task} {fault : StorageFault}
    (refused : (e.site.insert .online task.stanza true).1 = .error fault) (report : Report) :
    dealWith task report e =
      ((dealWith task report { e with keepsCopies := false }).1,
        { (dealWith task report { e with keepsCopies := false }).2 with
          keepsCopies := e.keepsCopies }) := by
  have met : faced task report e =
      { faced task report { e with keepsCopies := false } with keepsCopies := e.keepsCopies } := by
    have same := insert_eq_of_error refused
    unfold faced keepCopy
    split
    · simp only [same, Bool.false_and, Bool.false_eq_true, if_false]
    · simp only [Bool.false_and, Bool.false_eq_true, if_false]
  rw [dealWith_eq, dealWith_eq]
  by_cases faulty : report.hasFaults = true
  · obtain ⟨endings, after⟩ := Escalation.tryAll_agree task.stanza report.faults
      (facilities_agree e.keepsCopies) met task.escalation
    simp only [faulty, if_true]
    rw [endings, after]
  · simp only [faulty, Bool.false_eq_true, if_false]

theorem conclude_of_refused {task : Task} {fault : StorageFault}
    (refused : (e.site.insert .online task.stanza true).1 = .error fault)
    (resolution : Resolution) :
    conclude task resolution e =
      { conclude task resolution { e with keepsCopies := false } with
        keepsCopies := e.keepsCopies } := by
  cases resolution with
  | discarded => simp only [conclude, complete, settleHandle_eq]
  | crashed => simp only [conclude, settleHandle_eq]
  | reported report =>
    simp only [conclude, complete, settleHandle_eq, dealWith_of_refused refused report]

theorem conclude_eq_complete (task : Task) {resolution : Resolution}
    (whole : resolution ≠ .crashed) (e : Engine) :
    conclude task resolution e =
      complete task (outcomeOf task resolution e) (dealt task resolution e) := by
  cases resolution with
  | discarded => rfl
  | crashed => exact absurd rfl whole
  | reported report => rfl

theorem getElem?_settledHandles (task : Task) (outcome : Option Report) {handles : List Handle}
    {handle : Nat} (inside : handle < handles.length) (own : task.handle = some handle) :
    (settledHandles task outcome handles)[handle]? = some (.settled outcome) := by
  rw [settledHandles, own]
  simp [inside]

theorem calls_dealt (task : Task) (resolution : Resolution) (e : Engine) :
    ∃ calls, Calls task.escalation e calls (dealt task resolution e) ∧
      (resolution = .discarded ∨ resolution = .crashed →
        calls = [] ∧ outcomeOf task resolution e = none) ∧
      ∀ report, resolution = .reported report →
        (report.faults = [] → calls = [] ∧ outcomeOf task resolution e = some report) ∧
        (report.faults ≠ [] →
          Escalates task report e.keepsCopies calls (outcomeOf task resolution e)) := by
  cases resolution with
  | discarded => exact ⟨[], .none e, fun _ => ⟨rfl, rfl⟩, nofun⟩
  | crashed => exact ⟨[], .none e, fun _ => ⟨rfl, rfl⟩, nofun⟩
  | reported report =>
    by_cases flawless : report.faults = []
    · have same := dealWith_of_nil task flawless e
      refine ⟨[], ?_, by simp, ?_⟩
      · rw [dealt, same]
        exact .none e
      · rintro _ ⟨⟩
        refine ⟨fun _ => ⟨rfl, ?_⟩, fun faulty => absurd flawless faulty⟩
        rw [outcomeOf, same]
    · obtain ⟨calls, path, escalates⟩ := calls_dealWith task flawless e
      refine ⟨calls, path, by simp, ?_⟩
      rintro _ ⟨⟩
      exact ⟨fun none => absurd none flawless, fun _ => escalates⟩

/-- A task that need not wait is routed; then the calls that its report leads to are made,
and no others, and the task's handle is settled. Without a report or without faults nobody is
called, and the outcome is what routing came to. Where the copy would be refused, everything
goes on as if no copies were kept. -/
theorem escalation_is_exact (e : Engine) (job : Job) (free : e.waits job = false) :
    ∃ calls after outcome,
      Calls job.task.escalation { e with site := (e.routed job).2 } calls after ∧
      ((e.routed job).1 ≠ .crashed → work job e = (none, complete job.task outcome after)) ∧
      ((e.routed job).1 = .crashed → work job e = (none, settleHandle job.task none after)) ∧
      (∀ handle < e.handles.length, job.task.handle = some handle →
        (work job e).2.handles[handle]? = some (.settled outcome)) ∧
      ((e.routed job).1 = .discarded ∨ (e.routed job).1 = .crashed →
        calls = [] ∧ outcome = none) ∧
      (∀ report, (e.routed job).1 = .reported report →
        (report.faults = [] → calls = [] ∧ outcome = some report) ∧
        (report.faults ≠ [] → Escalates job.task report e.keepsCopies calls outcome)) ∧
      ∀ fault, ((e.routed job).2.insert .online job.task.stanza true).1 = .error fault →
        work job e = (none, { (work job { e with keepsCopies := false }).2 with
          keepsCopies := e.keepsCopies }) := by
  have worked : work job e = (none, e.concluded job) := by
    rw [work_eq, free]
    rfl
  obtain ⟨calls, path, silent, reported⟩ :=
    calls_dealt job.task (e.routed job).1 { e with site := (e.routed job).2 }
  refine ⟨calls, _, _, path, ?_, ?_, ?_, silent, reported, ?_⟩
  · intro whole
    rw [worked, concluded, conclude_eq_complete job.task whole]
  · intro crashed
    rw [worked, concluded, crashed]
    rfl
  · intro handle inside own
    obtain ⟨metrics, same⟩ :=
      conclude_eq job.task (e.routed job).1 { e with site := (e.routed job).2 }
    rw [worked, concluded, same]
    exact getElem?_settledHandles _ _ inside own
  · intro fault refused
    have same : { e with keepsCopies := false }.routed job = e.routed job := by
      cases job <;> rfl
    have free : { e with keepsCopies := false }.waits job = false := by
      cases job with
      | held task targets => rfl
      | fresh task => exact free
    have other := work_eq { e with keepsCopies := false } job
    rw [free, concluded, same] at other
    rw [worked, other, concluded]
    exact congrArg _ (conclude_of_refused refused (e.routed job).1)

theorem escalation_is_exact_for_unknown_account :
    ∃ e job report calls outcome, e.waits job = false ∧
      (e.routed job).1 = .reported report ∧ report.faults = [.noSuchUser] ∧
      Escalates job.task report true calls outcome ∧
      (work job e).2.handles[0]? = some (.settled outcome) ∧
      work job e = (none, { (work job { e with keepsCopies := false }).2 with
        keepsCopies := true }) := by
  -- A message for an unknown account, whose escalation fails, with no room for a copy.
  let bob : BareAddress := ⟨some "bob", "waddle.social"⟩
  let stanza : Stanza := .message ⟨.chat, some bob.toAddress, none, none, none, none⟩
  let escalation : Escalation := .single (.fail (.failed "no"))
  let router : Router := ⟨⟨"waddle.social", false⟩, false, false⟩
  let site : Site := ⟨.empty, ⟨[], none⟩, .empty 0, .empty 0, false, .empty⟩
  let e : Engine := (empty router Handover.handoff none true false site
    (.empty ⟨1, 2, 1, 60000⟩)).relay bob.toAddress stanza escalation |>.2
  let job : Job := .fresh ⟨bob.toAddress, stanza, escalation, some 0⟩
  have free : e.waits job = false := by decide +kernel
  have routed : (e.routed job).1 = .reported (.failed .noSuchUser) := by decide +kernel
  obtain ⟨calls, _, outcome, _, _, _, settled, _, reported, refused⟩ :=
    escalation_is_exact e job free
  have full : ((e.routed job).2.insert .online stanza true).1 =
      .error (.quotaExceeded bob.text) := by
    have same : (e.routed job).2 = site := by decide +kernel
    rw [same]
    rfl
  refine ⟨e, job, .failed .noSuchUser, calls, outcome, free, routed, rfl, ?_, ?_, ?_⟩
  · exact (reported _ routed).2 (List.cons_ne_nil _ _)
  · exact settled 0 (by decide +kernel) rfl
  · exact refused _ full

end StanzaDelivery.Engine
