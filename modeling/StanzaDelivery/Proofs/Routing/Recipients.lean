import StanzaDelivery.Proofs.Routing.Locality

/-! Who is handed a stanza. A session is handed a stanza if it ends up as the deliverer leaves
it, whatever the deliverer is. Those are the sessions that the policy wants and that are
authenticated; to every other session nothing happens at all. Where nobody is wanted the
account is offline, and where everybody who is wanted is not authenticated, nobody is reached
and no store is asked. -/

namespace StanzaDelivery.Routing

open Registry Handover

variable {router : Router} {address : Address} {stanza : Stanza} {site : Site} {e : Entry}
  {id : SessionId}

def IsHanded (router : Router) (address : Address) (stanza : Stanza) (site : Site)
    (id : SessionId) : Prop :=
  ∃ s, site.registry.session? id = some s ∧
    ∀ deliver, (router.resolve deliver address stanza site).2.registry.session? id =
      some (deliver stanza s).2

theorem session?_of_mem_chosen {p : RoutingPolicy} {r : Registry} (consistent : r.Consistent)
    (member : e ∈ chosen p r address stanza) : r.session? e.id = some e.session :=
  (mem_entries.1 ((mem_chosen consistent p address stanza e).1 member).mem_entries).2

theorem resolved_resolve (consistent : site.registry.Consistent) (router : Router)
    (deliver : Deliverer) (address : Address) (stanza : Stanza) :
    Resolved router deliver address stanza site
      (chosen router.policy site.registry address stanza)
      (router.resolve deliver address stanza site) := by
  have distinct := nodup_chosen consistent router.policy address stanza
  exact (aimed_aim _ _ address stanza).resolved deliver (List.pairwise_map.1 distinct)
    fun e member => session?_of_mem_chosen consistent member

theorem isHanded_of_wanted (consistent : site.registry.Consistent)
    (wanted : Wanted router.policy site.registry address stanza e)
    (authenticated : e.session.isAuthenticated = true) :
    IsHanded router address stanza site e.id := by
  refine ⟨e.session, (mem_entries.1 wanted.mem_entries).2, ?_⟩
  intro deliver
  obtain ⟨⟨faults, attempted, _⟩, _⟩ := resolved_resolve consistent router deliver address stanza
  rw [attempted.touched e ((mem_chosen consistent _ _ _ e).2 wanted), attemptEntry, authenticated]
  rfl

theorem session?_resolve_of_forall_ne (consistent : site.registry.Consistent)
    (others : ∀ e, Wanted router.policy site.registry address stanza e →
      e.session.isAuthenticated = true → e.id ≠ id) (deliver : Deliverer) :
    (router.resolve deliver address stanza site).2.registry.session? id =
      site.registry.session? id := by
  obtain ⟨⟨faults, attempted, _⟩, _⟩ := resolved_resolve consistent router deliver address stanza
  by_cases named : ∃ e ∈ chosen router.policy site.registry address stanza, e.id = id
  · obtain ⟨e, member, rfl⟩ := named
    have wanted := (mem_chosen consistent _ _ _ e).1 member
    have dead : e.session.isAuthenticated = false := by
      by_contra live
      exact others e wanted (by simpa using live) rfl
    rw [attempted.touched e member, attemptEntry, dead, session?_of_mem_chosen consistent member]
    rfl
  · apply attempted.untouched
    intro e member same
    exact named ⟨e, member, same⟩

theorem isHanded_iff (consistent : site.registry.Consistent) :
    IsHanded router address stanza site id ↔
      ∃ e, Wanted router.policy site.registry address stanza e ∧
        e.session.isAuthenticated = true ∧ e.id = id := by
  constructor
  · rintro ⟨s, known, handed⟩
    by_contra nobody
    have others : ∀ e, Wanted router.policy site.registry address stanza e →
        e.session.isAuthenticated = true → e.id ≠ id :=
      fun e wanted authenticated same => nobody ⟨e, wanted, authenticated, same⟩
    -- A deliverer that changes every session shows that this one was not acted on.
    let flip : Deliverer := fun _ s => (.accepted, { s with connected := !s.connected })
    have after := handed flip
    rw [session?_resolve_of_forall_ne consistent others flip, known] at after
    have same := congrArg (Option.map Session.connected) after
    simp [flip] at same
  · rintro ⟨e, wanted, authenticated, rfl⟩
    exact isHanded_of_wanted consistent wanted authenticated

theorem session?_resolve_of_not_isHanded (consistent : site.registry.Consistent)
    (spared : ¬IsHanded router address stanza site id) (deliver : Deliverer) :
    (router.resolve deliver address stanza site).2.registry.session? id =
      site.registry.session? id := by
  apply session?_resolve_of_forall_ne consistent
  intro e wanted authenticated same
  exact spared ((isHanded_iff consistent).2 ⟨e, wanted, authenticated, same⟩)

theorem aim_eq_ofEntries (here : address.domain = router.policy.localDomain)
    (single : stanza.messageType ≠ some .groupchat)
    (kept : ¬Dropped router.policy address stanza) (r : Registry) :
    router.policy.aim r address stanza = .ofEntries (chosen router.policy r address stanza) := by
  have isLocal : router.policy.isLocal address = true := by simp [RoutingPolicy.isLocal, here]
  simp only [RoutingPolicy.aim, chosen, isLocal, single, if_false]
  cases resource : address.resource with
  | some _ => rfl
  | none =>
    cases selection : router.policy.bareSelection stanza with
    | some _ => rfl
    | none => exact absurd ⟨here, resource, (bareSelection_eq_none_iff _ _).1 selection⟩ kept

theorem resolve_of_chosen_eq_nil (here : address.domain = router.policy.localDomain)
    (single : stanza.messageType ≠ some .groupchat)
    (kept : ¬Dropped router.policy address stanza)
    (nobody : chosen router.policy site.registry address stanza = []) (deliver : Deliverer) :
    router.resolve deliver address stanza site =
      (.reported (router.handleOffline address.bare stanza site).1,
        (router.handleOffline address.bare stanza site).2) := by
  rw [Router.resolve, aim_eq_ofEntries here single kept, nobody]
  rfl

theorem resolve_of_chosen_ne_nil (consistent : site.registry.Consistent)
    (here : address.domain = router.policy.localDomain)
    (single : stanza.messageType ≠ some .groupchat)
    (kept : ¬Dropped router.policy address stanza)
    (somebody : chosen router.policy site.registry address stanza ≠ []) (deliver : Deliverer) :
    router.resolve deliver address stanza site =
      (.reported (.attempted (attemptAll deliver stanza
          (targetsOf (chosen router.policy site.registry address stanza)) site.registry).1),
        { site with registry := (attemptAll deliver stanza
          (targetsOf (chosen router.policy site.registry address stanza)) site.registry).2 }) := by
  have known : ∀ e ∈ chosen router.policy site.registry address stanza,
      site.registry.session? e.id = some e.session :=
    fun e member => session?_of_mem_chosen consistent member
  have aim : Aim.ofEntries (chosen router.policy site.registry address stanza) =
      .sessions ((chosen router.policy site.registry address stanza).map (·.id)) := by
    simp [Aim.ofEntries, somebody]
  rw [Router.resolve, aim_eq_ofEntries here single kept, aim]
  simp only [Router.carryOut, Router.handToSessions, targets_map site _ known]

theorem attemptAll_of_dead (deliver : Deliverer) (stanza : Stanza) {order : List Entry}
    {r : Registry} (known : ∀ e ∈ order, r.session? e.id = some e.session)
    (dead : ∀ e ∈ order, e.session.isAuthenticated = false) :
    attemptAll deliver stanza (targetsOf order) r =
      (List.replicate order.length notAuthenticated, r) := by
  induction order with
  | nil => rfl
  | cons e rest ih =>
    obtain ⟨first, known⟩ := List.forall_mem_cons.1 known
    obtain ⟨unfit, dead⟩ := List.forall_mem_cons.1 dead
    have rest := ih known dead
    simp only [targetsOf, List.map_cons, attemptAll, unfit,
      attemptTarget_of_ineligible deliver stanza first] at rest ⊢
    rw [rest]
    rfl

end StanzaDelivery.Routing
