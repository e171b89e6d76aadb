import StanzaDelivery.Proofs.Routing.Targets

/-! What becomes of failures. Whoever is called for a stanza and fails has the fault reported,
with one exception: a component that crashes takes the report with it. Without a report a
stanza is left either by such a crash or because it aims nowhere. -/

namespace StanzaDelivery.Routing

open Handover

variable {router : Router} {deliver : Deliverer} {address : Address} {stanza : Stanza} {site : Site}

def CrashesComponent (router : Router) (site : Site) (address : Address) : Prop :=
  address.domain ≠ router.policy.localDomain ∧
    router.policy.isComponentDomain address.domain = true ∧ router.knowsComponents = true ∧
    site.components.component? address.domain = some .crashing

/-- One of the targets fails with this fault, as those before it left its session. -/
def FailsAmong (deliver : Deliverer) (stanza : Stanza) (targets : List Target) (r : Registry)
    (fault : Fault) : Prop :=
  ∃ before target after s, targets = before ++ target :: after ∧ target.eligible = true ∧
    (attemptAll deliver stanza before r).2.session? target.id = some s ∧
    (deliver stanza s).1.fault? = some fault

/-- Somebody who is called for the stanza fails with this fault: a session, a component, the
verification of an account, or the store for offline accounts. -/
inductive Fails (router : Router) (deliver : Deliverer) (address : Address) (stanza : Stanza)
    (site : Site) : Fault → Prop
  | session {ids : List SessionId} {fault : Fault}
      (aim : router.policy.aim site.registry address stanza = .sessions ids)
      (failed : FailsAmong deliver stanza (Router.targets site ids) site.registry fault) :
      Fails router deliver address stanza site fault
  | component {domain : String} {fault : Fault}
      (aim : router.policy.aim site.registry address stanza = .component domain)
      (asked : router.knowsComponents = true)
      (refusing : site.components.component? domain = some (.refusing fault)) :
      Fails router deliver address stanza site fault
  | verification {fault : StorageFault}
      (aim : router.policy.aim site.registry address stanza = .nobody)
      (failed : site.accounts.verify address.bare = .error fault) :
      Fails router deliver address stanza site
        (.causedByStorage "account verification failed" fault)
  | receiver {fault : StorageFault}
      (aim : router.policy.aim site.registry address stanza = .nobody)
      (known : site.accounts.verify address.bare = .ok true) (asked : router.keepsOffline = true)
      (failed : (site.pending.receive stanza).1 = .error fault) :
      Fails router deliver address stanza site
        (.causedByStorage "offline receiver rejected stanza" fault)

theorem ofEntries_ne_nowhere (entries : List Registry.Entry) :
    Aim.ofEntries entries ≠ .nowhere := by
  unfold Aim.ofEntries
  split <;> simp

theorem ofEntries_ne_component (entries : List Registry.Entry) (domain : String) :
    Aim.ofEntries entries ≠ .component domain := by
  unfold Aim.ofEntries
  split <;> simp

section

variable {p : RoutingPolicy} {r : Registry}

theorem aim_eq_nowhere_iff : p.aim r address stanza = .nowhere ↔ Dropped p address stanza := by
  have aimed := aimed_aim p r address stanza
  generalize p.aim r address stanza = aim at aimed ⊢
  generalize chosen p r address stanza = order at aimed
  cases aimed with
  | component kept => simp [kept]
  | refused fault kept => simp [kept]
  | nowhere dropped => simp [dropped]
  | chosen entries kept => simp [kept, ofEntries_ne_nowhere]

theorem aim_eq_component_iff {domain : String} :
    p.aim r address stanza = .component domain ↔
      address.domain ≠ p.localDomain ∧ p.isComponentDomain address.domain = true ∧
        address.domain = domain := by
  unfold RoutingPolicy.aim
  split
  next elsewhere =>
    have foreign : address.domain ≠ p.localDomain := by
      simpa [RoutingPolicy.isLocal] using elsewhere
    split
    next component => simp [foreign, component]
    next other => simp [other]
  next here =>
    have home : address.domain = p.localDomain := by simpa [RoutingPolicy.isLocal] using here
    simp only [home, ne_eq, not_true_eq_false, false_and, iff_false]
    split
    · simp
    · split
      · exact ofEntries_ne_component _ domain
      · split
        · simp
        · exact ofEntries_ne_component _ domain

theorem home_of_aim {ids : List SessionId} (aim : p.aim r address stanza = .sessions ids) :
    address.domain = p.localDomain ∧ ¬Dropped p address stanza := by
  constructor
  · cases home : p.isLocal address with
    | true => simpa [RoutingPolicy.isLocal] using home
    | false =>
      simp only [RoutingPolicy.aim, home, Bool.not_false, if_true] at aim
      split at aim <;> cases aim
  · intro dropped
    rw [aim_eq_nowhere_iff.2 dropped] at aim
    cases aim

end

theorem handToComponent_eq_crashed_iff (router : Router) (domain : String) (stanza : Stanza)
    (site : Site) :
    (router.handToComponent domain stanza site).1 = .crashed ↔
      router.knowsComponents = true ∧ site.components.component? domain = some .crashing := by
  unfold Router.handToComponent
  cases router.knowsComponents with
  | false => simp
  | true =>
    cases site.components.component? domain with
    | none => simp
    | some component => cases component <;> simp [Components.hand]

theorem resolve_eq_discarded_iff (router : Router) (deliver : Deliverer) (address : Address)
    (stanza : Stanza) (site : Site) :
    (router.resolve deliver address stanza site).1 = .discarded ↔
      Dropped router.policy address stanza := by
  rw [← aim_eq_nowhere_iff (r := site.registry), Router.resolve]
  cases router.policy.aim site.registry address stanza with
  | nowhere => simp [Router.carryOut]
  | refused fault => simp [Router.carryOut]
  | component domain =>
    simpa [Router.carryOut] using handToComponent_ne_discarded router domain stanza site
  | sessions ids => simp [Router.carryOut]
  | nobody => simp [Router.carryOut]

theorem resolve_eq_crashed_iff (router : Router) (deliver : Deliverer) (address : Address)
    (stanza : Stanza) (site : Site) :
    (router.resolve deliver address stanza site).1 = .crashed ↔
      CrashesComponent router site address := by
  constructor
  · intro crashed
    rw [Router.resolve] at crashed
    cases aim : router.policy.aim site.registry address stanza with
    | component domain =>
      obtain ⟨foreign, component, rfl⟩ := aim_eq_component_iff.1 aim
      rw [aim] at crashed
      obtain ⟨asked, crashing⟩ := (handToComponent_eq_crashed_iff router _ stanza site).1 crashed
      exact ⟨foreign, component, asked, crashing⟩
    | nowhere => simp [aim, Router.carryOut] at crashed
    | refused fault => simp [aim, Router.carryOut] at crashed
    | sessions ids => simp [aim, Router.carryOut] at crashed
    | nobody => simp [aim, Router.carryOut] at crashed
  · rintro ⟨foreign, component, crashing⟩
    rw [Router.resolve, aim_eq_component_iff.2 ⟨foreign, component, rfl⟩]
    exact (handToComponent_eq_crashed_iff router _ stanza site).2 crashing

theorem attemptAll_append (deliver : Deliverer) (stanza : Stanza) (before after : List Target)
    (r : Registry) :
    attemptAll deliver stanza (before ++ after) r =
      ((attemptAll deliver stanza before r).1 ++
          (attemptAll deliver stanza after (attemptAll deliver stanza before r).2).1,
        (attemptAll deliver stanza after (attemptAll deliver stanza before r).2).2) := by
  induction before generalizing r with
  | nil => rfl
  | cons target rest ih => simp [attemptAll, ih]

theorem FailsAmong.mem_faults {targets : List Target} {r : Registry} {fault : Fault}
    (failed : FailsAmong deliver stanza targets r fault) :
    fault ∈ (attemptAll deliver stanza targets r).1 := by
  obtain ⟨before, target, after, s, rfl, eligible, known, fails⟩ := failed
  rw [attemptAll_append]
  apply List.mem_append_right
  simp [attemptAll, attemptTarget, Registry.act, known, attempt, eligible, fails]

theorem failsAmong_of_mem {targets : List Target} {r : Registry} {fault : Fault}
    (member : fault ∈ (attemptAll deliver stanza targets r).1) :
    FailsAmong deliver stanza targets r fault ∨ fault = notAuthenticated := by
  induction targets generalizing r with
  | nil => cases member
  | cons target rest ih =>
    simp only [attemptAll, List.mem_append, Option.mem_toList] at member
    rcases member with here | later
    · cases known : r.session? target.id with
      | none => simp [attemptTarget, Registry.act, known] at here
      | some s =>
        cases eligible : target.eligible with
        | false =>
          refine .inr ?_
          simpa [attemptTarget, Registry.act, known, eligible, attempt, eq_comm] using here
        | true =>
          have fails : (deliver stanza s).1.fault? = some fault := by
            simpa [attemptTarget, Registry.act, known, eligible, attempt] using here
          exact .inl ⟨[], target, rest, s, rfl, eligible, known, fails⟩
    · rcases ih later with ⟨before, failing, after, s, rfl, eligible, known, fails⟩ | own
      · exact .inl ⟨target :: before, failing, after, s, rfl, eligible, known, fails⟩
      · exact .inr own

theorem Fails.reported {fault : Fault} (failed : Fails router deliver address stanza site fault) :
    ∃ report, (router.resolve deliver address stanza site).1 = .reported report ∧
      fault ∈ report.faults := by
  unfold Router.resolve
  cases failed with
  | session aim failed =>
    rw [aim]
    exact ⟨_, rfl, failed.mem_faults⟩
  | component aim asked refusing =>
    rw [aim]
    refine ⟨.failed fault, ?_, List.mem_singleton_self _⟩
    simp [Router.carryOut, Router.handToComponent, asked, refusing, Components.hand]
  | verification aim failed =>
    rw [aim]
    refine ⟨_, rfl, ?_⟩
    simp [failed, Report.failed]
  | receiver aim known asked failed =>
    rw [aim]
    refine ⟨_, rfl, ?_⟩
    simp [known, asked, failed, Report.failed]

end StanzaDelivery.Routing
