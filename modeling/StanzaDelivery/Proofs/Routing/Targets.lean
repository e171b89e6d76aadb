import StanzaDelivery.Proofs.Routing.Attempts

/-! The sessions that a stanza is handed to. The routing policy says of each session whether
it wants it; what a router attempts is exactly what the policy wants, in canonical order. -/

namespace StanzaDelivery.Routing

open Registry Handover

def Bound (r : Registry) (full : FullAddress) (e : Entry) : Prop :=
  e ∈ r.entries ∧ e.key.text = full.text

def OfAccount (r : Registry) (account : BareAddress) (e : Entry) : Prop :=
  e ∈ r.entries ∧ e.key.bare.text = account.text

/-- The entry shares the highest priority of its account, which is not negative. -/
def Foremost (r : Registry) (account : BareAddress) (e : Entry) : Prop :=
  OfAccount r account e ∧ 0 ≤ e.session.priority ∧
    ∀ other, OfAccount r account other → other.session.priority ≤ e.session.priority

/-- Whom a stanza for a full address is for: the session bound there, if its priority is
not negative, and else, for some kinds of stanza, the foremost of the account. -/
def WantedByFull (r : Registry) (full : FullAddress) (stanza : Stanza) (e : Entry) : Prop :=
  Bound r full e ∧ 0 ≤ e.session.priority ∨
    (¬∃ other, Bound r full other ∧ 0 ≤ other.session.priority) ∧
      (stanza.kind = .presence ∨ stanza.messageType = some .chat ∨
        stanza.messageType = some .normal ∨ stanza.messageType = some .headline) ∧
      Foremost r full.bare e

def WantedByBare (highestOnly : Bool) (r : Registry) (account : BareAddress) (stanza : Stanza)
    (e : Entry) : Prop :=
  match stanza with
  | .presence _ => OfAccount r account e
  | .iq _ => Foremost r account e
  | .message m =>
    match m.type with
    | .headline => OfAccount r account e
    | .chat | .normal =>
      if highestOnly then Foremost r account e
      else OfAccount r account e ∧ 0 ≤ e.session.priority
    | .groupchat | .error => False

def Wanted (p : RoutingPolicy) (r : Registry) (address : Address) (stanza : Stanza)
    (e : Entry) : Prop :=
  address.domain = p.localDomain ∧ stanza.messageType ≠ some .groupchat ∧
    match address.resource with
    | some resource => WantedByFull r ⟨address.bare, resource⟩ stanza e
    | none => WantedByBare p.highestOnly r address.bare stanza e

theorem WantedByBare.mem_entries {highestOnly : Bool} {r : Registry} {account : BareAddress}
    {stanza : Stanza} {e : Entry} (wanted : WantedByBare highestOnly r account stanza e) :
    e ∈ r.entries := by
  unfold WantedByBare at wanted
  split at wanted
  · exact wanted.1
  · exact wanted.1.1
  · split at wanted
    · exact wanted.1
    · split at wanted
      · exact wanted.1.1
      · exact wanted.1.1
    · split at wanted
      · exact wanted.1.1
      · exact wanted.1.1
    · exact wanted.elim
    · exact wanted.elim

theorem Wanted.mem_entries {p : RoutingPolicy} {r : Registry} {address : Address}
    {stanza : Stanza} {e : Entry} (wanted : Wanted p r address stanza e) : e ∈ r.entries := by
  obtain ⟨_, _, wanted⟩ := wanted
  split at wanted
  · rcases wanted with ⟨bound, _⟩ | ⟨_, _, foremost⟩
    · exact bound.1
    · exact foremost.1.1
  · exact wanted.mem_entries

theorem permitsBareFallback_iff (stanza : Stanza) :
    stanza.permitsBareFallback = true ↔
      stanza.kind = .presence ∨ stanza.messageType = some .chat ∨
        stanza.messageType = some .normal ∨ stanza.messageType = some .headline := by
  cases stanza with
  | presence p => simp [Stanza.permitsBareFallback, Stanza.kind]
  | iq q => simp [Stanza.permitsBareFallback, Stanza.kind, Stanza.messageType]
  | message m =>
    cases type : m.type <;>
      simp [Stanza.permitsBareFallback, Stanza.kind, Stanza.messageType, type]

theorem Selection.choose_sublist (s : Selection) (r : Registry) (address : Address) :
    (s.choose r address).Sublist (r.sessionsFor address) := by
  cases s with
  | all => exact List.Sublist.refl _
  | nonNegative => exact r.query_sublist _ address
  | highest => exact r.query_sublist _ address

section

variable {r : Registry} (consistent : r.Consistent)

include consistent

theorem mem_choose_all (account : BareAddress) (e : Entry) :
    e ∈ Selection.all.choose r account.toAddress ↔ OfAccount r account e :=
  consistent.mem_sessionsFor account.toAddress e

theorem mem_choose_nonNegative (account : BareAddress) (e : Entry) :
    e ∈ Selection.nonNegative.choose r account.toAddress ↔
      OfAccount r account e ∧ 0 ≤ e.session.priority := by
  rw [Selection.choose, mem_query_atLeast, consistent.mem_sessionsFor]
  rfl

theorem mem_choose_highest (account : BareAddress) (e : Entry) :
    e ∈ Selection.highest.choose r account.toAddress ↔ Foremost r account e := by
  rw [Selection.choose, mem_query_highest]
  simp only [consistent.mem_sessionsFor]
  rfl

theorem mem_choose_highest_full (full : FullAddress) (e : Entry) :
    e ∈ Selection.highest.choose r full.toAddress ↔ Bound r full e ∧ 0 ≤ e.session.priority := by
  rw [Selection.choose, mem_query_highest]
  simp only [consistent.mem_sessionsFor]
  constructor
  · rintro ⟨bound, enough, _⟩
    exact ⟨bound, enough⟩
  · rintro ⟨bound, enough⟩
    refine ⟨bound, enough, ?_⟩
    rintro other ⟨member, written⟩
    rw [consistent.eq_of_text member bound.1 (written.trans bound.2.symm)]
    exact Int8.le_refl _

theorem mem_fullTargets (full : FullAddress) (stanza : Stanza) (e : Entry) :
    e ∈ RoutingPolicy.fullTargets r full.toAddress stanza ↔ WantedByFull r full stanza e := by
  have mem_exact := mem_choose_highest_full consistent full
  have targets : RoutingPolicy.fullTargets r full.toAddress stanza =
      if (Selection.highest.choose r full.toAddress).isEmpty && stanza.permitsBareFallback then
        Selection.highest.choose r full.bare.toAddress
      else Selection.highest.choose r full.toAddress := rfl
  rw [targets, WantedByFull, ← permitsBareFallback_iff, ← mem_exact]
  by_cases found : ∃ other, Bound r full other ∧ 0 ≤ other.session.priority
  · obtain ⟨other, eligible⟩ := found
    have some : (Selection.highest.choose r full.toAddress).isEmpty = false :=
      List.isEmpty_eq_false_iff_exists_mem.2 ⟨other, (mem_exact other).2 eligible⟩
    rw [some]
    simp [show ∃ other, Bound r full other ∧ 0 ≤ other.session.priority from ⟨other, eligible⟩]
  · have none : Selection.highest.choose r full.toAddress = [] := by
      apply List.eq_nil_iff_forall_not_mem.2
      intro other chosen
      exact found ⟨other, (mem_exact other).1 chosen⟩
    rw [none]
    by_cases permits : stanza.permitsBareFallback = true
    · simp [permits, found, mem_choose_highest consistent]
    · simp [permits]

theorem mem_bareTargets (p : RoutingPolicy) (account : BareAddress) (stanza : Stanza) (e : Entry)
    (notGroup : stanza.messageType ≠ some .groupchat) :
    (∃ selection, p.bareSelection stanza = some selection ∧
      e ∈ selection.choose r account.toAddress) ↔
      WantedByBare p.highestOnly r account stanza e := by
  have all := mem_choose_all consistent account e
  have nonNegative := mem_choose_nonNegative consistent account e
  have highest := mem_choose_highest consistent account e
  cases stanza with
  | presence q => simp [RoutingPolicy.bareSelection, WantedByBare, all]
  | iq q => simp [RoutingPolicy.bareSelection, WantedByBare, highest]
  | message m =>
    cases only : p.highestOnly <;> cases type : m.type <;>
      simp [RoutingPolicy.bareSelection, WantedByBare, Stanza.messageType, type, only, all,
        nonNegative, highest] at notGroup ⊢

end

def chosen (p : RoutingPolicy) (r : Registry) (address : Address) (stanza : Stanza) :
    List Entry :=
  if !p.isLocal address then []
  else if stanza.messageType = some .groupchat then []
  else
    match address.resource with
    | some _ => RoutingPolicy.fullTargets r address stanza
    | none =>
      match p.bareSelection stanza with
      | none => []
      | some selection => selection.choose r address

theorem mem_chosen {r : Registry} (consistent : r.Consistent) (p : RoutingPolicy)
    (address : Address) (stanza : Stanza) (e : Entry) :
    e ∈ chosen p r address stanza ↔ Wanted p r address stanza e := by
  unfold chosen Wanted
  by_cases here : p.isLocal address = true
  · have domain : address.domain = p.localDomain := by simpa [RoutingPolicy.isLocal] using here
    by_cases group : stanza.messageType = some .groupchat
    · simp [group]
    · obtain ⟨account, resource⟩ := address
      cases resource with
      | some resource =>
        simpa [here, domain, group, FullAddress.toAddress] using
          mem_fullTargets consistent ⟨account, resource⟩ stanza e
      | none =>
        have bare := mem_bareTargets consistent p account stanza e group
        cases selection : p.bareSelection stanza with
        | none => simpa [here, domain, group, selection] using bare
        | some selection =>
          simpa [here, domain, group, selection, BareAddress.toAddress] using bare
  · have domain : address.domain ≠ p.localDomain := by simpa [RoutingPolicy.isLocal] using here
    simp [here, domain]

theorem chosen_pairwise {r : Registry} (consistent : r.Consistent) (p : RoutingPolicy)
    (address : Address) (stanza : Stanza) :
    (chosen p r address stanza).Pairwise Entry.Before := by
  have selected : ∀ (s : Selection) (address : Address),
      (s.choose r address).Pairwise Entry.Before := fun s address =>
    (consistent.sessionsFor_pairwise address).sublist (s.choose_sublist r address)
  unfold chosen
  split
  · exact .nil
  split
  · exact .nil
  split
  · unfold RoutingPolicy.fullTargets
    dsimp only
    split
    · exact selected _ _
    · exact selected _ _
  · split
    · exact .nil
    · exact selected _ _

theorem aim_of_ne_localDomain {p : RoutingPolicy} {address : Address}
    (foreign : address.domain ≠ p.localDomain) (r : Registry) (stanza : Stanza) :
    p.aim r address stanza =
      if p.isComponentDomain address.domain then .component address.domain
      else .refused (unsupportedDomain address.domain) := by
  have elsewhere : p.isLocal address = false := beq_eq_false_iff_ne.2 foreign
  rw [RoutingPolicy.aim, elsewhere, Bool.not_false, if_pos rfl]

def Dropped (p : RoutingPolicy) (address : Address) (stanza : Stanza) : Prop :=
  address.domain = p.localDomain ∧ address.resource = none ∧ stanza.messageType = some .error

inductive Aimed (p : RoutingPolicy) (address : Address) (stanza : Stanza) :
    Aim → List Entry → Prop
  | component (kept : ¬Dropped p address stanza) :
      Aimed p address stanza (.component address.domain) []
  | refused (fault : Fault) (kept : ¬Dropped p address stanza) :
      Aimed p address stanza (.refused fault) []
  | nowhere (dropped : Dropped p address stanza) : Aimed p address stanza .nowhere []
  | chosen (entries : List Entry) (kept : ¬Dropped p address stanza) :
      Aimed p address stanza (.ofEntries entries) entries

theorem bareSelection_eq_none_iff (p : RoutingPolicy) (stanza : Stanza) :
    p.bareSelection stanza = none ↔ stanza.messageType = some .error := by
  cases stanza with
  | presence q => simp [RoutingPolicy.bareSelection, Stanza.messageType]
  | iq q => simp [RoutingPolicy.bareSelection, Stanza.messageType]
  | message m =>
    cases only : p.highestOnly <;> cases type : m.type <;>
      simp [RoutingPolicy.bareSelection, Stanza.messageType, type, only]

theorem aimed_aim (p : RoutingPolicy) (r : Registry) (address : Address) (stanza : Stanza) :
    Aimed p address stanza (p.aim r address stanza) (chosen p r address stanza) := by
  by_cases here : p.isLocal address = true
  · have domain : address.domain = p.localDomain := by simpa [RoutingPolicy.isLocal] using here
    by_cases group : stanza.messageType = some .groupchat
    · simp only [RoutingPolicy.aim, chosen, here, group, if_true]
      refine .refused _ ?_
      simp [Dropped, group]
    · cases resource : address.resource with
      | some _ =>
        simp only [RoutingPolicy.aim, chosen, here, group, if_false, resource]
        refine .chosen _ ?_
        simp [Dropped, resource]
      | none =>
        have dropped := bareSelection_eq_none_iff p stanza
        cases selection : p.bareSelection stanza with
        | none =>
          simp only [RoutingPolicy.aim, chosen, here, group, if_false, resource, selection]
          exact .nowhere ⟨domain, resource, dropped.1 selection⟩
        | some selected =>
          simp only [RoutingPolicy.aim, chosen, here, group, if_false, resource, selection]
          refine .chosen _ ?_
          rintro ⟨_, _, error⟩
          simp [dropped.2 error] at selection
  · have domain : address.domain ≠ p.localDomain := by simpa [RoutingPolicy.isLocal] using here
    have kept : ¬Dropped p address stanza := fun dropped => domain dropped.1
    simp only [RoutingPolicy.aim, chosen, here]
    by_cases component : p.isComponentDomain address.domain = true
    · simp only [component, if_true]
      exact .component kept
    · simp only [component]
      exact .refused _ kept

theorem site_handleOffline (router : Router) (account : BareAddress) (stanza : Stanza)
    (site : Site) :
    (router.handleOffline account stanza site).2 = site ∨
      (router.handleOffline account stanza site).2 =
        { site with pending := (site.pending.receive stanza).2 } := by
  unfold Router.handleOffline
  split
  · exact .inl rfl
  · exact .inl rfl
  · split
    · dsimp only
      split <;> exact .inr rfl
    · exact .inl rfl

theorem registry_handleOffline (router : Router) (account : BareAddress) (stanza : Stanza)
    (site : Site) : (router.handleOffline account stanza site).2.registry = site.registry := by
  rcases site_handleOffline router account stanza site with same | received
  · rw [same]
  · rw [received]

theorem site_handToComponent (router : Router) (domain : String) (stanza : Stanza) (site : Site) :
    ∃ components, (router.handToComponent domain stanza site).2 =
      { site with components := components } := by
  unfold Router.handToComponent
  split
  · split
    · exact ⟨_, rfl⟩
    · dsimp only
      split <;> exact ⟨_, rfl⟩
  · exact ⟨_, rfl⟩

theorem registry_handToComponent (router : Router) (domain : String) (stanza : Stanza)
    (site : Site) : (router.handToComponent domain stanza site).2.registry = site.registry := by
  obtain ⟨_, same⟩ := site_handToComponent router domain stanza site
  rw [same]

theorem handToComponent_ne_discarded (router : Router) (domain : String) (stanza : Stanza)
    (site : Site) : (router.handToComponent domain stanza site).1 ≠ .discarded := by
  unfold Router.handToComponent
  split
  · split
    · simp
    · dsimp only
      split <;> simp
  · simp

theorem targets_map (site : Site) (order : List Entry)
    (known : ∀ e ∈ order, site.registry.session? e.id = some e.session) :
    Router.targets site (order.map (·.id)) = targetsOf order := by
  rw [Router.targets, targetsOf, List.map_map]
  apply List.map_congr_left
  intro e member
  simp [targetOf, known e member]

theorem attempted_nil (deliver : Deliverer) (stanza : Stanza) (r : Registry) :
    Attempted deliver stanza [] r [] r :=
  ⟨rfl, List.forall_mem_nil _, fun _ _ => rfl, rfl⟩

/-- What resolving a stanza comes to, when these entries are attempted. -/
structure Resolved (router : Router) (deliver : Deliverer) (address : Address) (stanza : Stanza)
    (site : Site) (order : List Entry) (result : Resolution × Site) : Prop where
  attempted : ∃ faults, Attempted deliver stanza order site.registry faults result.2.registry ∧
    (order ≠ [] → result.1 = .reported (.attempted faults))
  discarded : result.1 = .discarded ↔ Dropped router.policy address stanza

theorem resolved_nobody {router : Router} {deliver : Deliverer} {address : Address}
    {stanza : Stanza} {site after : Site} {resolution : Resolution}
    (same : after.registry = site.registry)
    (discarded : resolution = .discarded ↔ Dropped router.policy address stanza) :
    Resolved router deliver address stanza site [] (resolution, after) := by
  refine ⟨⟨[], ?_, fun nonempty => absurd rfl nonempty⟩, discarded⟩
  rw [same]
  exact attempted_nil deliver stanza site.registry

theorem Aimed.resolved {router : Router} {address : Address} {stanza : Stanza} {site : Site}
    {aim : Aim} {order : List Entry} (deliver : Deliverer)
    (aimed : Aimed router.policy address stanza aim order)
    (distinct : order.Pairwise fun e f => e.id ≠ f.id)
    (known : ∀ e ∈ order, site.registry.session? e.id = some e.session) :
    Resolved router deliver address stanza site order
      (router.carryOut deliver aim address stanza site) := by
  cases aimed with
  | component kept =>
    have answered := handToComponent_ne_discarded router address.domain stanza site
    exact resolved_nobody (registry_handToComponent router address.domain stanza site)
      ⟨fun discarded => absurd discarded answered, fun dropped => absurd dropped kept⟩
  | refused fault kept => exact resolved_nobody rfl (by simp [kept])
  | nowhere dropped => exact resolved_nobody rfl (by simp [dropped])
  | chosen entries kept =>
    by_cases empty : order = []
    · subst empty
      exact resolved_nobody (registry_handleOffline router address.bare stanza site)
        (by simp [kept])
    · have attempted := attempted_attemptAll deliver stanza order site.registry distinct known
      have aim : Aim.ofEntries order = .sessions (order.map (·.id)) := by
        simp [Aim.ofEntries, empty]
      simp only [aim, Router.carryOut, Router.handToSessions, targets_map site order known]
      exact ⟨⟨_, attempted, fun _ => rfl⟩, by simp [kept]⟩

/-- A router attempts the sessions that its policy wants, and no others: each of them once,
in canonical order. It discards error messages for bare addresses and nothing else. -/
theorem attempts_are_wanted (router : Router) (deliver : Deliverer) (address : Address)
    (stanza : Stanza) (site : Site) (built : site.registry.Built) :
    ∃ order faults,
      (∀ e, e ∈ order ↔ Wanted router.policy site.registry address stanza e) ∧
      order.Pairwise Entry.Before ∧ (order.map (·.id)).Nodup ∧
      Attempted deliver stanza order site.registry faults
        (router.resolve deliver address stanza site).2.registry ∧
      (order ≠ [] →
        (router.resolve deliver address stanza site).1 = .reported (.attempted faults)) ∧
      ((router.resolve deliver address stanza site).1 = .discarded ↔
        address.domain = router.policy.localDomain ∧ address.resource = none ∧
          stanza.messageType = some .error) := by
  have consistent := built.consistent
  have wanted := mem_chosen consistent router.policy address stanza
  have ordered := chosen_pairwise consistent router.policy address stanza
  have bound : ∀ e ∈ chosen router.policy site.registry address stanza,
      e ∈ site.registry.entries := fun e member => ((wanted e).1 member).mem_entries
  have distinct : (chosen router.policy site.registry address stanza).Pairwise
      fun e f => e.id ≠ f.id := by
    refine ordered.imp_of_mem ?_
    intro e f one other before same
    exact before.ne (consistent.eq_of_id (bound e one) (bound f other) same)
  obtain ⟨⟨faults, attempted, reported⟩, discarded⟩ :=
    (aimed_aim router.policy site.registry address stanza).resolved deliver distinct
      fun e member => (mem_entries.1 (bound e member)).2
  exact ⟨_, faults, wanted, ordered, List.pairwise_map.2 distinct, attempted, reported, discarded⟩

theorem attempts_are_wanted_at_bare_address :
    ∃ (router : Router) (account : BareAddress) (stanza : Stanza) (site : Site),
      site.registry.Built ∧ site.registry.count = 2 ∧
      ((router.resolve handoff account.toAddress stanza site).2.registry.session? 0).map
        Session.inbox = some [stanza] ∧
      (router.resolve handoff account.toAddress stanza site).2.registry.session? 1 =
        site.registry.session? 1 := by
  -- Of the two sessions of an account, one has a negative priority. A chat message for the account
  -- reaches the other one only.
  let account : BareAddress := ⟨some "carol", "waddle.social"⟩
  let phone : Session := ⟨⟨account, "phone"⟩, .authenticated, 3, 1, true, []⟩
  let desk : Session := ⟨⟨account, "desk"⟩, .authenticated, -1, 1, true, []⟩
  let stanza : Stanza := .message ⟨.chat, none, none, none, none, none⟩
  let router : Router := ⟨⟨"waddle.social", false⟩, false, false⟩
  let registry : Registry := ((Registry.empty.register phone).2.register desk).2
  let site : Site := ⟨registry, ⟨[], none⟩, .empty 0, .empty 0, false, .empty⟩
  have built : site.registry.Built := (Built.empty.register phone).register desk
  obtain ⟨order, faults, wanted, _, _, attempted, _⟩ :=
    attempts_are_wanted router handoff account.toAddress stanza site built
  refine ⟨router, account, stanza, site, built, rfl, ?_, ?_⟩
  · have phoneWanted : Wanted router.policy site.registry account.toAddress stanza
        ⟨⟨account, "phone"⟩, 0, phone⟩ := by
      refine ⟨rfl, nofun, ?_⟩
      refine ⟨⟨mem_entries.2 ⟨?_, rfl⟩, rfl⟩, by decide⟩
      exact List.mem_cons_self ..
    rw [attempted.touched _ ((wanted _).2 phoneWanted)]
    rfl
  · apply attempted.untouched
    intro e member same
    obtain ⟨_, _, ⟨bound, _⟩, enough⟩ := (wanted e).1 member
    have known := (mem_entries.1 bound).2
    rw [same] at known
    have session : desk = e.session := Option.some.inj known
    rw [← session] at enough
    exact absurd enough (by decide)

end StanzaDelivery.Routing
