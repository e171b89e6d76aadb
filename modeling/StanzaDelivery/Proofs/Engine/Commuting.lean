import StanzaDelivery.Proofs.Engine.Books
import StanzaDelivery.Proofs.Escalation.Sequence
import StanzaDelivery.Proofs.Routing.Accounts

/-! Tasks for different accounts do not get in each other's way. A task for an account of the
local domain, with a stanza for no other one and an escalation that neither sends nor writes
anything down, reads nothing of the engine but its equipment and what its site has of this account,
and changes nothing but that, the metrics and its own handle. So two such tasks may be worked on in
either order. -/

namespace StanzaDelivery.Engine

open Registry

/-- The task is for an account of the local domain, and concerns nobody else. -/
structure Task.Domestic (p : RoutingPolicy) (task : Task) : Prop where
  here : task.address.domain = p.localDomain
  own : StanzaStore.IsFor task.address.bare.text task.stanza
  quiet : task.escalation.IsQuiet

def siteFacilities : Escalation.Facilities Site where
  send := fun _ _ s => (.ok (), s)
  keep := fun stanza s => s.insert .pending stanza false
  note := fun _ _ s => s

def copiedTo (keepsCopies : Bool) (task : Task) (report : Report) (s : Site) : Site :=
  if keepsCopies && !report.contains .storedOffline then (s.insert .online task.stanza true).2
  else s

def endedOn (keepsCopies : Bool) (task : Task) (resolution : Resolution) (s : Site) :
    Option Report × Site :=
  match resolution with
  | .discarded => (none, s)
  | .crashed => (none, s)
  | .reported report =>
    if report.hasFaults then
      let tried := task.escalation.tryAll siteFacilities task.stanza report.faults
        (copiedTo keepsCopies task report s)
      (some (escalated report tried.1), tried.2)
    else (some report, s)

def recorded (task : Task) (resolution : Resolution) (outcome : Option Report) (m : Metrics) :
    Metrics :=
  match resolution with
  | .crashed => m
  | .discarded => m.countLatency task.stanza.kind none
  | .reported report =>
    (m.countFaults report.faults).countLatency task.stanza.kind (outcome.map Report.verdict)

theorem tryAll_quiet {escalation : Escalation} (quiet : escalation.IsQuiet) (stanza : Stanza)
    (faults : List Fault) (e : Engine) :
    escalation.tryAll facilities stanza faults e =
      ((escalation.tryAll siteFacilities stanza faults e.site).1,
        { e with site := (escalation.tryAll siteFacilities stanza faults e.site).2 }) := by
  have keep : ∀ (f : Engine) (s : Site), f = { e with site := s } →
      (facilities.keep stanza f).1 = (siteFacilities.keep stanza s).1 ∧
        (facilities.keep stanza f).2 = { e with site := (siteFacilities.keep stanza s).2 } := by
    rintro _ s rfl
    exact ⟨rfl, rfl⟩
  have alike : (escalation.tryAll facilities stanza faults e).1 =
        (escalation.tryAll siteFacilities stanza faults e.site).1 ∧
      (escalation.tryAll facilities stanza faults e).2 =
        { e with site := (escalation.tryAll siteFacilities stanza faults e.site).2 } :=
    quiet.tryAll_agree keep rfl
  exact Prod.ext alike.1 alike.2

theorem faced_eq (task : Task) (report : Report) (e : Engine) :
    faced task report e = { e with
      site := copiedTo e.keepsCopies task report e.site
      metrics := e.metrics.countFaults report.faults } := by
  unfold faced keepCopy copiedTo
  dsimp only
  split
  · rfl
  · rfl

theorem conclude_quiet {task : Task} (quiet : task.escalation.IsQuiet) (resolution : Resolution)
    (e : Engine) :
    outcomeOf task resolution e = (endedOn e.keepsCopies task resolution e.site).1 ∧
      conclude task resolution e = { e with
        site := (endedOn e.keepsCopies task resolution e.site).2
        metrics := recorded task resolution (outcomeOf task resolution e) e.metrics
        handles := settledHandles task (outcomeOf task resolution e) e.handles } := by
  cases resolution with
  | discarded => exact ⟨rfl, settleHandle_eq ..⟩
  | crashed => exact ⟨rfl, settleHandle_eq ..⟩
  | reported report =>
    simp only [outcomeOf, conclude, complete, settleHandle_eq, dealWith_eq, endedOn, recorded]
    by_cases faulty : report.hasFaults = true
    · rw [if_pos faulty, if_pos faulty, tryAll_quiet quiet, faced_eq]
      exact ⟨rfl, rfl⟩
    · have none : report.faults = [] := by simpa [Report.hasFaults] using faulty
      rw [if_neg faulty, if_neg faulty, none]
      exact ⟨rfl, rfl⟩

section Sites

variable {p : RoutingPolicy} {task : Task} {s t : Site}

theorem copiedTo_agree (own : StanzaStore.IsFor task.address.bare.text task.stanza)
    (agree : s.AgreeOn task.address.bare t) (keepsCopies : Bool) (report : Report) :
    (copiedTo keepsCopies task report s).AgreeOn task.address.bare
      (copiedTo keepsCopies task report t) := by
  unfold copiedTo
  split
  · exact (agree.insert own .online true).2
  · exact agree

theorem agreeOff_copiedTo (own : StanzaStore.IsFor task.address.bare.text task.stanza)
    (keepsCopies : Bool) (report : Report) (s : Site) :
    s.AgreeOff task.address.bare (copiedTo keepsCopies task report s) := by
  unfold copiedTo
  split
  · exact Site.agreeOff_insert own s .online true
  · exact .refl _ _

theorem Task.Domestic.endedOn_agree (domestic : task.Domestic p)
    (agree : s.AgreeOn task.address.bare t) (keepsCopies : Bool) (resolution : Resolution) :
    (endedOn keepsCopies task resolution t).1 = (endedOn keepsCopies task resolution s).1 ∧
      (endedOn keepsCopies task resolution s).2.AgreeOn task.address.bare
        (endedOn keepsCopies task resolution t).2 := by
  cases resolution with
  | discarded => exact ⟨rfl, agree⟩
  | crashed => exact ⟨rfl, agree⟩
  | reported report =>
    simp only [endedOn]
    by_cases faulty : report.hasFaults = true
    · rw [if_pos faulty, if_pos faulty]
      have keep : ∀ x y : Site, y.AgreeOn task.address.bare x →
          (siteFacilities.keep task.stanza x).1 = (siteFacilities.keep task.stanza y).1 ∧
            (siteFacilities.keep task.stanza y).2.AgreeOn task.address.bare
              (siteFacilities.keep task.stanza x).2 :=
        fun x y same => same.insert domestic.own .pending false
      have alike : (task.escalation.tryAll siteFacilities task.stanza report.faults
            (copiedTo keepsCopies task report t)).1 =
          (task.escalation.tryAll siteFacilities task.stanza report.faults
            (copiedTo keepsCopies task report s)).1 ∧
          (task.escalation.tryAll siteFacilities task.stanza report.faults
            (copiedTo keepsCopies task report s)).2.AgreeOn task.address.bare
          (task.escalation.tryAll siteFacilities task.stanza report.faults
            (copiedTo keepsCopies task report t)).2 :=
        domestic.quiet.tryAll_agree keep (copiedTo_agree domestic.own agree keepsCopies report)
      exact ⟨congrArg (fun ending => some (escalated report ending)) alike.1, alike.2⟩
    · rw [if_neg faulty, if_neg faulty]
      exact ⟨rfl, agree⟩

theorem Task.Domestic.agreeOff_endedOn (domestic : task.Domestic p) (keepsCopies : Bool)
    (resolution : Resolution) (s : Site) :
    s.AgreeOff task.address.bare (endedOn keepsCopies task resolution s).2 := by
  cases resolution with
  | discarded => exact .refl _ _
  | crashed => exact .refl _ _
  | reported report =>
    simp only [endedOn]
    by_cases faulty : report.hasFaults = true
    · rw [if_pos faulty]
      refine Escalation.tryAll_preserves ?_ ?_ ?_ task.escalation
        (agreeOff_copiedTo domestic.own keepsCopies report s)
      · exact fun _ _ _ _ same => same
      · exact fun x same => same.trans (Site.agreeOff_insert domestic.own x .pending false)
      · exact fun _ same => same
    · rw [if_neg faulty]
      exact .refl _ _

end Sites

/-- The engines have the same equipment, and their sites agree on the account. -/
structure AgreeOn (account : BareAddress) (e f : Engine) : Prop where
  router : f.router = e.router
  deliverer : f.deliverer = e.deliverer
  gate : f.gate = e.gate
  keepsCopies : f.keepsCopies = e.keepsCopies
  site : e.site.AgreeOn account f.site

def siteAfter (e : Engine) (task : Task) : Site :=
  if e.waits (.fresh task) then e.site
  else (endedOn e.keepsCopies task (e.routed (.fresh task)).1 (e.routed (.fresh task)).2).2

def metricsAfter (e : Engine) (task : Task) (m : Metrics) : Metrics :=
  if e.waits (.fresh task) then m
  else recorded task (e.execution (.fresh task)).resolution (e.execution (.fresh task)).outcome m

def handlesAfter (e : Engine) (task : Task) (handles : List Handle) : List Handle :=
  if e.waits (.fresh task) then handles
  else settledHandles task (e.execution (.fresh task)).outcome handles

section Engines

variable {e f : Engine} {task : Task}

theorem Task.Domestic.work_eq (domestic : task.Domestic e.router.policy) :
    (work (.fresh task) e).2 = { e with
      site := e.siteAfter task
      metrics := e.metricsAfter task e.metrics
      handles := e.handlesAfter task e.handles } := by
  rw [Engine.work_eq, siteAfter, metricsAfter, handlesAfter]
  split
  · rfl
  · exact (conclude_quiet domestic.quiet _ _).2

theorem AgreeOn.targetsFor (agree : e.AgreeOn task.address.bare f) :
    f.targetsFor (.fresh task) = e.targetsFor (.fresh task) := by
  rw [Engine.targetsFor, Engine.targetsFor, agree.router, agree.site.registry.aim]
  cases aim : e.router.policy.aim e.site.registry task.address task.stanza with
  | sessions ids => exact agree.site.targets (leadsUnder_of_aim aim)
  | _ => rfl

theorem AgreeOn.waits (agree : e.AgreeOn task.address.bare f) :
    f.waits (.fresh task) = e.waits (.fresh task) := by
  rw [Engine.waits, Engine.waits, agree.targetsFor, mustWait, mustWait, agree.gate]

theorem Task.Domestic.agreeOff_routed (domestic : task.Domestic e.router.policy) :
    e.site.AgreeOff task.address.bare (e.routed (.fresh task)).2 :=
  Site.agreeOff_resolve e.deliverer e.site domestic.here domestic.own

theorem AgreeOn.routed (agree : e.AgreeOn task.address.bare f)
    (domestic : task.Domestic e.router.policy) :
    (f.routed (.fresh task)).1 = (e.routed (.fresh task)).1 ∧
      (e.routed (.fresh task)).2.AgreeOn task.address.bare (f.routed (.fresh task)).2 := by
  rw [Engine.routed, Engine.routed, agree.router, agree.deliverer]
  exact agree.site.resolve e.deliverer domestic.here domestic.own

theorem arrivals_of_session? {r q before after : Registry} {id : SessionId}
    (old : q.session? id = r.session? id) (new : after.session? id = before.session? id) :
    arrivals q after id = arrivals r before id := by
  rw [arrivals, arrivals, inbox_congr old, inbox_congr new]

theorem arrivals_of_unchanged {before after : Registry} {id : SessionId}
    (same : after.session? id = before.session? id) : arrivals before after id = [] := by
  rw [arrivals, inbox_congr same, List.drop_length]

theorem execution_outcome (domestic : task.Domestic e.router.policy) :
    (e.execution (.fresh task)).outcome = (endedOn e.keepsCopies task
      (e.routed (.fresh task)).1 (e.routed (.fresh task)).2).1 :=
  (conclude_quiet domestic.quiet (e.routed (.fresh task)).1
    { e with site := (e.routed (.fresh task)).2 }).1

theorem AgreeOn.execution (agree : e.AgreeOn task.address.bare f)
    (domestic : task.Domestic e.router.policy) :
    f.execution (.fresh task) = e.execution (.fresh task) := by
  have also : task.Domestic f.router.policy := agree.router ▸ domestic
  obtain ⟨resolution, after⟩ := agree.routed domestic
  have outcome : (f.execution (.fresh task)).outcome = (e.execution (.fresh task)).outcome := by
    rw [execution_outcome domestic, execution_outcome also, agree.keepsCopies, resolution]
    exact (domestic.endedOn_agree after _ _).1
  have arrived : (f.execution (.fresh task)).arrivals = (e.execution (.fresh task)).arrivals := by
    funext id
    have first := domestic.agreeOff_routed.registry
    have second := also.agreeOff_routed.registry
    by_cases own : e.site.registry.LeadsUnder task.address.bare id
    · have still : (e.routed (.fresh task)).2.registry.LeadsUnder task.address.bare id :=
        (leadsUnder_congr first.directory id).2 own
      exact arrivals_of_session? (agree.site.registry.sessions id own)
        (after.registry.sessions id still)
    · have others : ¬f.site.registry.LeadsUnder task.address.bare id :=
        mt (leadsUnder_congr agree.site.registry.directory id).1 own
      exact (arrivals_of_unchanged (second.sessions id others)).trans
        (arrivals_of_unchanged (first.sessions id own)).symm
  rw [Engine.execution, Engine.execution, Execution.mk.injEq]
  exact ⟨rfl, resolution, outcome, arrived⟩

theorem AgreeOn.siteAfter (agree : e.AgreeOn task.address.bare f)
    (domestic : task.Domestic e.router.policy) :
    (e.siteAfter task).AgreeOn task.address.bare (f.siteAfter task) := by
  obtain ⟨resolution, after⟩ := agree.routed domestic
  rw [Engine.siteAfter, Engine.siteAfter, agree.waits, agree.keepsCopies, resolution]
  split
  · exact agree.site
  · exact (domestic.endedOn_agree after _ _).2

theorem Task.Domestic.agreeOff_siteAfter (domestic : task.Domestic e.router.policy) :
    e.site.AgreeOff task.address.bare (e.siteAfter task) := by
  rw [Engine.siteAfter]
  split
  · exact .refl _ _
  · exact domestic.agreeOff_routed.trans (domestic.agreeOff_endedOn _ _ _)

theorem AgreeOn.work (agree : e.AgreeOn task.address.bare f)
    (domestic : task.Domestic e.router.policy) :
    (work (.fresh task) e).2.site.AgreeOn task.address.bare (work (.fresh task) f).2.site := by
  have also : task.Domestic f.router.policy := agree.router ▸ domestic
  rw [domestic.work_eq, also.work_eq]
  exact agree.siteAfter domestic

theorem Task.Domestic.agreeOff_work (domestic : task.Domestic e.router.policy) :
    e.site.AgreeOff task.address.bare (work (.fresh task) e).2.site := by
  rw [domestic.work_eq]
  exact domestic.agreeOff_siteAfter

theorem Task.Domestic.agreeOn_work {account : BareAddress}
    (domestic : task.Domestic e.router.policy)
    (apart : Site.Apart e.site.registry task.address.bare account) :
    e.AgreeOn account (Engine.work (.fresh task) e).2 := by
  rw [domestic.work_eq]
  exact ⟨rfl, rfl, rfl, rfl, domestic.agreeOff_siteAfter.on apart⟩

theorem AgreeOn.metricsAfter (agree : e.AgreeOn task.address.bare f)
    (domestic : task.Domestic e.router.policy) (m : Metrics) :
    f.metricsAfter task m = e.metricsAfter task m := by
  rw [Engine.metricsAfter, Engine.metricsAfter, agree.waits, agree.execution domestic]

theorem AgreeOn.handlesAfter (agree : e.AgreeOn task.address.bare f)
    (domestic : task.Domestic e.router.policy) (handles : List Handle) :
    f.handlesAfter task handles = e.handlesAfter task handles := by
  rw [Engine.handlesAfter, Engine.handlesAfter, agree.waits, agree.execution domestic]

end Engines

theorem recorded_eq (task : Task) (resolution : Resolution) (outcome : Option Report) :
    ∃ (faults : FaultKind → Nat) (latencies : Stanza.Kind → Option Verdict → Nat),
      ∀ m, recorded task resolution outcome m = { m with
        faults := fun kind => m.faults kind + faults kind
        latencies := fun kind verdict => m.latencies kind verdict + latencies kind verdict } := by
  have timed : ∀ (m : Metrics) (verdict : Option Verdict), m.countLatency task.stanza.kind verdict =
      { m with latencies := fun k v =>
          m.latencies k v + if k = task.stanza.kind ∧ v = verdict then 1 else 0 } := by
    intro m verdict
    rw [Metrics.countLatency]
    congr 1
    funext k v
    split <;> rfl
  cases resolution with
  | crashed => exact ⟨fun _ => 0, fun _ _ => 0, fun _ => rfl⟩
  | discarded => exact ⟨fun _ => 0, _, fun m => timed m none⟩
  | reported report =>
    refine ⟨fun kind => report.faults.countP fun fault => fault.kind = kind,
      fun k v => if k = task.stanza.kind ∧ v = outcome.map Report.verdict then 1 else 0, ?_⟩
    intro m
    rw [recorded, timed, Metrics.countFaults_eq]

theorem recorded_comm (one other : Task) (first second : Resolution)
    (told heard : Option Report) (m : Metrics) :
    recorded one first told (recorded other second heard m) =
      recorded other second heard (recorded one first told m) := by
  obtain ⟨faults, latencies, added⟩ := recorded_eq one first told
  obtain ⟨faults', latencies', added'⟩ := recorded_eq other second heard
  simp only [added, added', Metrics.mk.injEq, true_and]
  refine ⟨?_, ?_⟩
  · funext kind
    exact Nat.add_right_comm ..
  · funext kind verdict
    exact Nat.add_right_comm ..

theorem settledHandles_comm {one other : Task}
    (apart : ∀ handle, one.handle = some handle → other.handle ≠ some handle)
    (told heard : Option Report) (handles : List Handle) :
    settledHandles one told (settledHandles other heard handles) =
      settledHandles other heard (settledHandles one told handles) := by
  unfold settledHandles
  cases first : one.handle with
  | none => rfl
  | some handle =>
    cases second : other.handle with
    | none => rfl
    | some handle' =>
      have different : handle ≠ handle' := by
        rintro rfl
        exact apart handle first second
      apply List.ext_getElem?
      intro n
      simp only [List.getElem?_modify]
      by_cases here : handle = n
      · subst here
        simp [Ne.symm different]
      · simp [here]

theorem metricsAfter_comm (e : Engine) (one other : Task) (m : Metrics) :
    e.metricsAfter one (e.metricsAfter other m) = e.metricsAfter other (e.metricsAfter one m) := by
  unfold metricsAfter
  by_cases first : e.waits (.fresh one) = true
  · simp only [if_pos first]
  by_cases second : e.waits (.fresh other) = true
  · simp only [if_pos second]
  simp only [if_neg first, if_neg second]
  exact recorded_comm ..

theorem handlesAfter_comm (e : Engine) {one other : Task}
    (apart : ∀ handle, one.handle = some handle → other.handle ≠ some handle)
    (handles : List Handle) :
    e.handlesAfter one (e.handlesAfter other handles) =
      e.handlesAfter other (e.handlesAfter one handles) := by
  unfold handlesAfter
  by_cases first : e.waits (.fresh one) = true
  · simp only [if_pos first]
  by_cases second : e.waits (.fresh other) = true
  · simp only [if_pos second]
  simp only [if_neg first, if_neg second]
  exact settledHandles_comm apart ..

/-- Two domestic tasks, one after the other, each leaving the other's account as it was found. -/
theorem work_work_eq {e : Engine} {one other : Task} (domestic : one.Domestic e.router.policy)
    (domestic' : other.Domestic e.router.policy)
    (apart : Site.Apart e.site.registry one.address.bare other.address.bare) :
    (work (.fresh other) (work (.fresh one) e).2).2 = { e with
      site := (work (.fresh other) (work (.fresh one) e).2).2.site
      metrics := e.metricsAfter other (e.metricsAfter one e.metrics)
      handles := e.handlesAfter other (e.handlesAfter one e.handles) } := by
  have left := domestic.agreeOn_work apart
  have still : other.Domestic (work (.fresh one) e).2.router.policy := left.router ▸ domestic'
  have last := still.work_eq
  rw [left.metricsAfter domestic', left.handlesAfter domestic'] at last
  generalize both : (work (.fresh other) (work (.fresh one) e).2).2 = after at last ⊢
  rw [last, domestic.work_eq]

/-- Two tasks for different accounts of the local domain, whose stanzas are for no other accounts
and whose escalations neither send nor write anything down, may be worked on in either order.
Whether a task has to wait, and what it comes to, is the same; and so is what is left in the end:
the registry with all sessions and their inboxes, what the stores hold for every account, the
metrics, the handles, and everything else of the engine. -/
theorem relays_commute {e : Engine} {one other : Task} (built : e.site.registry.Built)
    (domestic : one.Domestic e.router.policy) (domestic' : other.Domestic e.router.policy)
    (unslashed : one.address.bare.Unslashed) (unslashed' : other.address.bare.Unslashed)
    (accounts : one.address.bare ≠ other.address.bare)
    (handles : ∀ handle, one.handle = some handle → other.handle ≠ some handle) :
    let first := (work (.fresh one) e).2
    let second := (work (.fresh other) e).2
    let both := (work (.fresh other) first).2
    let both' := (work (.fresh one) second).2
    (first.waits (.fresh other) = e.waits (.fresh other) ∧
      second.waits (.fresh one) = e.waits (.fresh one)) ∧
    (first.execution (.fresh other) = e.execution (.fresh other) ∧
      second.execution (.fresh one) = e.execution (.fresh one)) ∧
    both.handles = both'.handles ∧ both.metrics = both'.metrics ∧
    both.site.Alike both'.site ∧ both' = { both with site := both'.site } := by
  intro first second both both'
  have domain : one.address.bare.domain = other.address.bare.domain :=
    domestic.here.trans domestic'.here.symm
  have apart : Site.Apart e.site.registry one.address.bare other.address.bare := by
    refine ⟨fun text => accounts (BareAddress.eq_of_text_of_domain domain text), ?_⟩
    intro id leads
    exact built.consistent.not_leadsUnder unslashed unslashed' domain accounts leads
  -- Each task changes its own account only, and so each finds its account as it was.
  have off : e.site.AgreeOff one.address.bare first.site := domestic.agreeOff_work
  have off' : e.site.AgreeOff other.address.bare second.site := domestic'.agreeOff_work
  have left : e.AgreeOn other.address.bare first := domestic.agreeOn_work apart
  have left' : e.AgreeOn one.address.bare second := domestic'.agreeOn_work apart.symm
  have last : first.site.AgreeOff other.address.bare both.site :=
    Task.Domestic.agreeOff_work (left.router ▸ domestic')
  have last' : second.site.AgreeOff one.address.bare both'.site :=
    Task.Domestic.agreeOff_work (left'.router ▸ domestic)
  have alike : both.site.Alike both'.site := by
    refine off.alike last off' last' ?_ ?_
    · exact (last.on (apart.symm.congr off.registry.directory)).symm.trans (left'.work domestic)
    · exact (left.work domestic').symm.trans (last'.on (apart.congr off'.registry.directory))
  have done : both = _ := work_work_eq domestic domestic' apart
  have done' : both' = _ := work_work_eq domestic' domestic apart.symm
  rw [e.metricsAfter_comm, e.handlesAfter_comm handles] at done'
  refine ⟨⟨left.waits, left'.waits⟩, ⟨left.execution domestic', left'.execution domestic⟩,
    ?_, ?_, alike, ?_⟩
  · rw [done, done']
  · rw [done, done']
  · rw [done, done']

theorem relays_commute_with_faults :
    ∃ e one other, one.address.text = "alice@waddle.social/phone" ∧
      other.address.text = "bob@waddle.social" ∧
      (work (.fresh other) (work (.fresh one) e).2).2.handles =
        [.settled (some (.failed escalationCrashed)),
          .settled (some (.failed (escalationFailed (.causedByStorage "offline storage failed"
            (.quotaExceeded "bob@waddle.social")))))] ∧
      (work (.fresh one) (work (.fresh other) e).2).2.handles =
        (work (.fresh other) (work (.fresh one) e).2).2.handles ∧
      (work (.fresh other) (work (.fresh one) e).2).2.site.pending.stored.map (·.account.node) =
        [some "alice", some "bob"] ∧
      (work (.fresh one) (work (.fresh other) e).2).2.site.pending.stored.map (·.account.node) =
        [some "bob", some "alice"] ∧
      (work (.fresh other) (work (.fresh one) e).2).2.site.pending.ledger =
        (work (.fresh one) (work (.fresh other) e).2).2.site.pending.ledger := by
  -- The inbox of one recipient is full, and the other recipient is offline. A copy of either stanza
  -- goes to the store that they share, where it leaves no room for a stanza that is to wait. The
  -- escalations end badly, in either order, and the store holds the same for both.
  let alice : BareAddress := ⟨some "alice", "waddle.social"⟩
  let bob : BareAddress := ⟨some "bob", "waddle.social"⟩
  let older : Stanza := .message ⟨.chat, none, none, none, none, none⟩
  let phone : Session := ⟨⟨alice, "phone"⟩, .authenticated, 3, 1, true, [older]⟩
  let registry : Registry := (Registry.empty.register phone).2
  let site : Site := ⟨registry, ⟨[alice, bob], none⟩, .empty 1, .empty 1, true, .empty⟩
  let router : Router := ⟨⟨"waddle.social", false⟩, false, false⟩
  let e : Engine := { empty router Handover.handoff none true false site
    (.empty ⟨1, 2, 1, 60000⟩) with handles := [.pending, .pending] }
  let one : Task := ⟨⟨alice, some "phone"⟩,
    .message ⟨.chat, some alice.toAddress, none, none, none, none⟩, .single .crash, some 0⟩
  let other : Task := ⟨bob.toAddress,
    .message ⟨.chat, some bob.toAddress, none, none, none, none⟩,
    .chain [.single .ignore, .single .storeOffline], some 1⟩
  have domestic : one.Domestic e.router.policy := by
    refine ⟨rfl, ?_, by decide⟩
    rintro _ ⟨⟩
    rfl
  have domestic' : other.Domestic e.router.policy := by
    refine ⟨rfl, ?_, by decide⟩
    rintro _ ⟨⟩
    rfl
  obtain ⟨_, _, handles, _, alike, _⟩ := relays_commute (.register phone .empty) domestic domestic'
    (by rintro _ ⟨⟩; decide) (by rintro _ ⟨⟩; decide) (by decide) (by rintro _ ⟨⟩; decide)
  refine ⟨e, one, other, by decide, by decide, ?_, handles.symm, ?_, ?_, alike.pending⟩
  · decide +kernel
  · decide +kernel
  · decide +kernel

end StanzaDelivery.Engine
