import StanzaDelivery.Proofs.Routing.Inboxes
import StanzaDelivery.Proofs.Routing.Targets
import StanzaDelivery.Proofs.Session.Accounts
import StanzaDelivery.Proofs.Storage.Accounts

/-! What routing has to do with other accounts than the destination's: nothing. A stanza for an
account of the local domain is aimed by what the site has of this account, and what is done with
it changes nothing but what the site has of this account. -/

namespace StanzaDelivery

open Registry Handover Routing

section Attempts

variable {r q : Registry} {account : BareAddress} (deliver : Deliverer) (stanza : Stanza)

theorem Registry.AgreeOn.attemptTarget {target : Target} (agree : r.AgreeOn account q)
    (bound : r.LeadsUnder account target.id) :
    (attemptTarget deliver stanza target q).1 = (attemptTarget deliver stanza target r).1 ∧
      (Handover.attemptTarget deliver stanza target r).2.AgreeOn account
        (Handover.attemptTarget deliver stanza target q).2 := by
  refine ⟨?_, ?_, ?_⟩
  · rw [attemptTarget_fst, attemptTarget_fst, Target.fault?, Target.fault?,
      agree.sessions target.id bound]
  · rw [directory_attemptTarget, directory_attemptTarget, agree.directory]
  · intro id leads
    rw [leadsUnder_congr (directory_attemptTarget ..)] at leads
    rw [session?_attemptTarget, session?_attemptTarget, agree.sessions id leads]

theorem Registry.AgreeOn.attemptAll {targets : List Target}
    (bound : ∀ target ∈ targets, r.LeadsUnder account target.id) (agree : r.AgreeOn account q) :
    (attemptAll deliver stanza targets q).1 = (attemptAll deliver stanza targets r).1 ∧
      (Handover.attemptAll deliver stanza targets r).2.AgreeOn account
        (Handover.attemptAll deliver stanza targets q).2 := by
  induction targets generalizing r q with
  | nil => exact ⟨rfl, agree⟩
  | cons target rest ih =>
    obtain ⟨first, others⟩ := List.forall_mem_cons.1 bound
    obtain ⟨fault, after⟩ := agree.attemptTarget deliver stanza first
    have still : ∀ later ∈ rest,
        (Handover.attemptTarget deliver stanza target r).2.LeadsUnder account later.id := by
      intro later member
      exact (leadsUnder_congr (directory_attemptTarget ..) _).2 (others later member)
    obtain ⟨faults, last⟩ := ih still after
    refine ⟨?_, last⟩
    simp only [Handover.attemptAll]
    rw [fault, faults]

theorem Registry.agreeOff_attemptAll {targets : List Target}
    (bound : ∀ target ∈ targets, r.LeadsUnder account target.id) :
    r.AgreeOff account (attemptAll deliver stanza targets r).2 := by
  refine ⟨directory_attemptAll .., ?_⟩
  intro id others
  apply session?_attemptAll_of_notMem
  intro aimed
  obtain ⟨target, member, rfl⟩ := List.mem_map.1 aimed
  exact others (bound target member)

end Attempts

section Aims

variable {p : RoutingPolicy} {r q : Registry} {address : Address} {stanza : Stanza}

theorem Registry.AgreeOn.choose (agree : r.AgreeOn address.bare q) (s : Selection) :
    s.choose q address = s.choose r address := by
  cases s with
  | all => exact agree.sessionsFor
  | nonNegative => exact agree.query _
  | highest => exact agree.query _

theorem Registry.AgreeOn.aim (agree : r.AgreeOn address.bare q) (p : RoutingPolicy)
    (stanza : Stanza) : p.aim q address stanza = p.aim r address stanza := by
  have whole : r.AgreeOn address.bare.toAddress.bare q := agree
  have standIn := whole.choose .highest
  simp only [RoutingPolicy.aim, RoutingPolicy.fullTargets, agree.choose, standIn]

theorem leadsUnder_of_mem_choose {s : Selection} {e : Entry} (member : e ∈ s.choose r address) :
    r.LeadsUnder address.bare e.id :=
  leadsUnder_of_mem_sessionsFor ((s.choose_sublist r address).subset member)

theorem mem_of_ofEntries {entries : List Entry} {ids : List SessionId} {id : SessionId}
    (aim : Aim.ofEntries entries = .sessions ids) (member : id ∈ ids) :
    ∃ e ∈ entries, e.id = id := by
  unfold Aim.ofEntries at aim
  split at aim
  · cases aim
  · cases aim
    exact List.mem_map.1 member

theorem leadsUnder_of_aim {ids : List SessionId} (aim : p.aim r address stanza = .sessions ids) :
    ∀ id ∈ ids, r.LeadsUnder address.bare id := by
  intro id member
  unfold RoutingPolicy.aim at aim
  split at aim
  · split at aim <;> cases aim
  · split at aim
    · cases aim
    · split at aim
      · obtain ⟨e, chosen, rfl⟩ := mem_of_ofEntries aim member
        unfold RoutingPolicy.fullTargets at chosen
        dsimp only at chosen
        split at chosen
        · have standIn : r.LeadsUnder address.bare.toAddress.bare e.id :=
            leadsUnder_of_mem_choose chosen
          exact standIn
        · exact leadsUnder_of_mem_choose chosen
      · split at aim
        · cases aim
        · obtain ⟨e, chosen, rfl⟩ := mem_of_ofEntries aim member
          exact leadsUnder_of_mem_choose chosen

theorem aim_ne_component (here : address.domain = p.localDomain) (domain : String) :
    p.aim r address stanza ≠ .component domain := by
  intro aim
  have isLocal : p.isLocal address = true := beq_iff_eq.2 here
  simp only [RoutingPolicy.aim, isLocal, Bool.not_true, Bool.false_eq_true, if_false] at aim
  unfold Aim.ofEntries at aim
  repeat' split at aim
  all_goals cases aim

end Aims

namespace Site

variable {s t u : Site} {account other : BareAddress} {stanza : Stanza}

structure AgreeOn (account : BareAddress) (s t : Site) : Prop where
  registry : s.registry.AgreeOn account t.registry
  accounts : t.accounts = s.accounts
  pending : s.pending.AgreeOn account.text t.pending
  online : s.online.AgreeOn account.text t.online
  sharesStore : t.sharesStore = s.sharesStore

/-- The sites are alike but for what they have of the account. -/
structure AgreeOff (account : BareAddress) (s t : Site) : Prop where
  registry : s.registry.AgreeOff account t.registry
  accounts : t.accounts = s.accounts
  pending : s.pending.AgreeOff account.text t.pending
  online : s.online.AgreeOff account.text t.online
  sharesStore : t.sharesStore = s.sharesStore
  components : t.components = s.components

theorem AgreeOn.symm (agree : s.AgreeOn account t) : t.AgreeOn account s :=
  ⟨agree.registry.symm, agree.accounts.symm, agree.pending.symm, agree.online.symm,
    agree.sharesStore.symm⟩

theorem AgreeOn.trans (first : s.AgreeOn account t) (second : t.AgreeOn account u) :
    s.AgreeOn account u :=
  ⟨first.registry.trans second.registry, second.accounts.trans first.accounts,
    first.pending.trans second.pending, first.online.trans second.online,
    second.sharesStore.trans first.sharesStore⟩

theorem AgreeOff.refl (account : BareAddress) (s : Site) : s.AgreeOff account s :=
  ⟨.refl _ _, rfl, .refl _ _, .refl _ _, rfl, rfl⟩

theorem AgreeOff.trans (first : s.AgreeOff account t) (second : t.AgreeOff account u) :
    s.AgreeOff account u :=
  ⟨first.registry.trans second.registry, second.accounts.trans first.accounts,
    first.pending.trans second.pending, first.online.trans second.online,
    second.sharesStore.trans first.sharesStore, second.components.trans first.components⟩

/-- No session is under both accounts, and they are written differently. -/
structure Apart (r : Registry) (account other : BareAddress) : Prop where
  text : account.text ≠ other.text
  sessions : ∀ id, r.LeadsUnder account id → ¬r.LeadsUnder other id

theorem Apart.symm {r : Registry} (apart : Apart r account other) : Apart r other account :=
  ⟨apart.text.symm, fun id one another => apart.sessions id another one⟩

theorem Apart.congr {r q : Registry} (apart : Apart r account other)
    (directory : q.directory = r.directory) : Apart q account other := by
  refine ⟨apart.text, ?_⟩
  intro id leads
  rw [leadsUnder_congr directory] at leads ⊢
  exact apart.sessions id leads

theorem AgreeOff.on (agree : s.AgreeOff account t) (apart : Apart s.registry account other) :
    s.AgreeOn other t :=
  ⟨agree.registry.on apart.symm.sessions, agree.accounts, agree.pending.on apart.text.symm,
    agree.online.on apart.text.symm, agree.sharesStore⟩

/-- The sites are the same but for the order in which the stores came to hold what they hold for
different accounts. -/
structure Alike (s t : Site) : Prop where
  registry : s.registry = t.registry
  accounts : s.accounts = t.accounts
  pendingLimit : s.pending.limit = t.pending.limit
  pending : s.pending.ledger = t.pending.ledger
  onlineLimit : s.online.limit = t.online.limit
  online : s.online.ledger = t.online.ledger
  sharesStore : s.sharesStore = t.sharesStore
  components : s.components = t.components

theorem AgreeOff.alike {first second x y : Site} (one : s.AgreeOff account first)
    (another : first.AgreeOff other x) (other' : s.AgreeOff other second)
    (one' : second.AgreeOff account y) (agree : x.AgreeOn account y) (also : x.AgreeOn other y) :
    x.Alike y where
  registry := one.registry.eq another.registry other'.registry one'.registry agree.registry
    also.registry
  accounts := agree.accounts.symm
  pendingLimit := agree.pending.limit.symm
  pending := one.pending.ledger_eq another.pending other'.pending one'.pending agree.pending
    also.pending
  onlineLimit := agree.online.limit.symm
  online := one.online.ledger_eq another.online other'.online one'.online agree.online also.online
  sharesStore := agree.sharesStore.symm
  components := by
    rw [another.components, one.components, one'.components, other'.components]

theorem AgreeOn.store (agree : s.AgreeOn account t) (shelf : Shelf) :
    (s.store shelf).AgreeOn account.text (t.store shelf) := by
  cases shelf with
  | pending => exact agree.pending
  | online =>
    rw [Site.store, Site.store, agree.sharesStore]
    cases s.sharesStore with
    | true => exact agree.pending
    | false => exact agree.online

theorem AgreeOn.withStore {store store' : StanzaStore} (agree : s.AgreeOn account t)
    (same : store.AgreeOn account.text store') (shelf : Shelf) :
    (s.withStore shelf store).AgreeOn account (t.withStore shelf store') := by
  obtain ⟨registry, accounts, pending, online, sharesStore⟩ := agree
  cases shelf with
  | pending => exact ⟨registry, accounts, same, online, sharesStore⟩
  | online =>
    unfold Site.withStore
    dsimp only
    by_cases shared : s.sharesStore = true
    · rw [if_pos shared, if_pos (sharesStore.trans shared)]
      exact ⟨registry, accounts, same, online, sharesStore⟩
    · rw [if_neg shared, if_neg (sharesStore ▸ shared)]
      exact ⟨registry, accounts, pending, same, sharesStore⟩

theorem agreeOff_withStore {shelf : Shelf} {store : StanzaStore}
    (same : (s.store shelf).AgreeOff account.text store) :
    s.AgreeOff account (s.withStore shelf store) := by
  cases shelf with
  | pending => exact ⟨.refl _ _, rfl, same, .refl _ _, rfl, rfl⟩
  | online =>
    unfold Site.store at same
    unfold Site.withStore
    dsimp only at same ⊢
    by_cases shared : s.sharesStore = true
    · rw [if_pos shared] at same ⊢
      exact ⟨.refl _ _, rfl, same, .refl _ _, rfl, rfl⟩
    · rw [if_neg shared] at same ⊢
      exact ⟨.refl _ _, rfl, .refl _ _, same, rfl, rfl⟩

theorem AgreeOn.insert (agree : s.AgreeOn account t) (own : StanzaStore.IsFor account.text stanza)
    (shelf : Shelf) (viewed : Bool) :
    (t.insert shelf stanza viewed).1 = (s.insert shelf stanza viewed).1 ∧
      (s.insert shelf stanza viewed).2.AgreeOn account (t.insert shelf stanza viewed).2 := by
  obtain ⟨answer, after⟩ := (agree.store shelf).insert own viewed
  exact ⟨answer, agree.withStore after shelf⟩

theorem agreeOff_insert (own : StanzaStore.IsFor account.text stanza) (s : Site) (shelf : Shelf)
    (viewed : Bool) : s.AgreeOff account (s.insert shelf stanza viewed).2 :=
  agreeOff_withStore ((s.store shelf).agreeOff_insert own viewed)

theorem AgreeOn.handleOffline (router : Router) (agree : s.AgreeOn account t)
    (own : StanzaStore.IsFor account.text stanza) :
    (router.handleOffline account stanza t).1 = (router.handleOffline account stanza s).1 ∧
      (router.handleOffline account stanza s).2.AgreeOn account
        (router.handleOffline account stanza t).2 := by
  obtain ⟨answer, after⟩ := agree.pending.insert own false
  have stored := agree.withStore after .pending
  have verified : t.accounts.verify account = s.accounts.verify account := by
    rw [agree.accounts]
  unfold Router.handleOffline StanzaStore.receive
  rw [verified]
  cases s.accounts.verify account with
  | error fault => exact ⟨rfl, agree⟩
  | ok known =>
    cases known with
    | false => exact ⟨rfl, agree⟩
    | true =>
      cases router.keepsOffline with
      | false => exact ⟨rfl, agree⟩
      | true =>
        simp only [if_true, answer]
        cases (s.pending.insert stanza false).1 with
        | ok done => exact ⟨rfl, stored⟩
        | error fault => exact ⟨rfl, stored⟩

theorem agreeOff_handleOffline (router : Router) (s : Site)
    (own : StanzaStore.IsFor account.text stanza) :
    s.AgreeOff account (router.handleOffline account stanza s).2 := by
  rcases site_handleOffline router account stanza s with same | received
  · rw [same]
    exact .refl _ _
  · have stored : s.AgreeOff account (s.withStore .pending (s.pending.receive stanza).2) :=
      agreeOff_withStore (s.pending.agreeOff_insert own false)
    rw [received]
    exact stored

theorem AgreeOn.targets (agree : s.AgreeOn account t) {ids : List SessionId}
    (bound : ∀ id ∈ ids, s.registry.LeadsUnder account id) :
    Router.targets t ids = Router.targets s ids := by
  apply List.map_congr_left
  intro id member
  rw [targetOf, targetOf, agree.registry.sessions id (bound id member)]

theorem leadsUnder_of_mem_targets {ids : List SessionId}
    (bound : ∀ id ∈ ids, s.registry.LeadsUnder account id) :
    ∀ target ∈ Router.targets s ids, s.registry.LeadsUnder account target.id := by
  intro target member
  obtain ⟨id, named, rfl⟩ := List.mem_map.1 member
  exact bound id named

theorem AgreeOn.handToSessions (agree : s.AgreeOn account t) (deliver : Deliverer)
    (stanza : Stanza) {targets : List Target}
    (bound : ∀ target ∈ targets, s.registry.LeadsUnder account target.id) :
    (Router.handToSessions deliver targets stanza t).1 =
        (Router.handToSessions deliver targets stanza s).1 ∧
      (Router.handToSessions deliver targets stanza s).2.AgreeOn account
        (Router.handToSessions deliver targets stanza t).2 := by
  obtain ⟨faults, registry⟩ := agree.registry.attemptAll deliver stanza bound
  exact ⟨congrArg Report.attempted faults, registry, agree.accounts, agree.pending, agree.online,
    agree.sharesStore⟩

theorem agreeOff_handToSessions (deliver : Deliverer) {targets : List Target}
    (bound : ∀ target ∈ targets, s.registry.LeadsUnder account target.id) :
    s.AgreeOff account (Router.handToSessions deliver targets stanza s).2 :=
  ⟨agreeOff_attemptAll deliver stanza bound, rfl, .refl _ _, .refl _ _, rfl, rfl⟩

theorem AgreeOn.resolve {router : Router} {address : Address} (deliver : Deliverer)
    (agree : s.AgreeOn address.bare t) (here : address.domain = router.policy.localDomain)
    (own : StanzaStore.IsFor address.bare.text stanza) :
    (router.resolve deliver address stanza t).1 = (router.resolve deliver address stanza s).1 ∧
      (router.resolve deliver address stanza s).2.AgreeOn address.bare
        (router.resolve deliver address stanza t).2 := by
  rw [Router.resolve, Router.resolve, agree.registry.aim]
  cases aim : router.policy.aim s.registry address stanza with
  | nowhere => exact ⟨rfl, agree⟩
  | refused fault => exact ⟨rfl, agree⟩
  | component domain => exact absurd aim (aim_ne_component here domain)
  | nobody =>
    obtain ⟨report, after⟩ := agree.handleOffline router own
    exact ⟨congrArg Resolution.reported report, after⟩
  | sessions ids =>
    have bound := leadsUnder_of_aim aim
    obtain ⟨report, after⟩ :=
      agree.handToSessions deliver stanza (leadsUnder_of_mem_targets bound)
    simp only [Router.carryOut, agree.targets bound]
    exact ⟨congrArg Resolution.reported report, after⟩

theorem agreeOff_resolve {router : Router} {address : Address} (deliver : Deliverer) (s : Site)
    (here : address.domain = router.policy.localDomain)
    (own : StanzaStore.IsFor address.bare.text stanza) :
    s.AgreeOff address.bare (router.resolve deliver address stanza s).2 := by
  rw [Router.resolve]
  cases aim : router.policy.aim s.registry address stanza with
  | nowhere => exact .refl _ _
  | refused fault => exact .refl _ _
  | component domain => exact absurd aim (aim_ne_component here domain)
  | nobody => exact agreeOff_handleOffline router s own
  | sessions ids =>
    exact agreeOff_handToSessions deliver (leadsUnder_of_mem_targets (leadsUnder_of_aim aim))

end Site
end StanzaDelivery
