import StanzaDelivery.Proofs.Routing.Recipients

/-! Sessions that are not authenticated are chosen by their priority like any others, and only
then refused. So they can capture the stanzas of an account: where only the foremost sessions
are wanted, one of them keeps a stanza from all that rank below it; and where nobody is
authenticated, one of them keeps it from being dealt with as for an offline account. That is
all they can do: apart from it every account gets its stanzas through its authenticated
sessions, or offline. -/

namespace StanzaDelivery.Routing

open Registry Handover

variable {p : RoutingPolicy} {r : Registry} {router : Router} {address : Address}
  {account : BareAddress} {stanza : Stanza} {site : Site} {e : Entry}

/-- The policy wants sessions for the stanza, and none of them is authenticated. -/
def Captured (p : RoutingPolicy) (r : Registry) (address : Address) (stanza : Stanza) : Prop :=
  (∃ e, Wanted p r address stanza e) ∧
    ∀ e, Wanted p r address stanza e → e.session.isAuthenticated = false

theorem exists_foremost (consistent : r.Consistent) (known : OfAccount r account e)
    (enough : 0 ≤ e.session.priority) :
    ∃ best, Foremost r account best ∧ e.session.priority ≤ best.session.priority := by
  have mem_account : ∀ other, other ∈ r.sessionsFor account.toAddress ↔ OfAccount r account other :=
    fun other => consistent.mem_sessionsFor account.toAddress other
  let read := (r.sessionsFor account.toAddress).map fun other => (other.session.priority, other)
  have here : (e.session.priority, e) ∈ read := List.mem_map.2 ⟨e, (mem_account e).2 known, rfl⟩
  obtain ⟨best, found⟩ : ∃ best, Priority.best? read = some best := by
    apply Option.ne_none_iff_exists'.1
    intro none
    rw [(Priority.best?_eq_none_iff read).1 none] at here
    cases here
  obtain ⟨⟨entry, member, rfl⟩, most⟩ := (Priority.best?_eq_some_iff read best).1 found
  obtain ⟨first, there, rfl⟩ := List.mem_map.1 member
  have above := most _ here
  refine ⟨first, ⟨(mem_account first).1 there, Int8.le_trans enough above, ?_⟩, above⟩
  intro other ofAccount
  exact most _ (List.mem_map.2 ⟨other, (mem_account other).2 ofAccount, rfl⟩)

def ByPriority (stanza : Stanza) : Prop :=
  stanza.kind = .iq ∨ stanza.messageType = some .chat ∨ stanza.messageType = some .normal

/-- Only the foremost sessions are wanted, not all of non-negative priority. -/
def ForForemost (p : RoutingPolicy) (stanza : Stanza) : Prop :=
  stanza.kind = .iq ∨ p.highestOnly = true

theorem ByPriority.single (kind : ByPriority stanza) : stanza.messageType ≠ some .groupchat := by
  rcases kind with iq | chat | normal
  · cases stanza <;> simp [Stanza.kind, Stanza.messageType] at iq ⊢
  · simp [chat]
  · simp [normal]

theorem ByPriority.kept (kind : ByPriority stanza) : ¬Dropped p address stanza := by
  rintro ⟨_, _, error⟩
  rcases kind with iq | chat | normal
  · cases stanza <;> simp [Stanza.kind, Stanza.messageType] at iq error
  · simp [chat] at error
  · simp [normal] at error

theorem ByPriority.wanted_iff (kind : ByPriority stanza)
    (here : account.domain = p.localDomain) (e : Entry) :
    Wanted p r account.toAddress stanza e ↔
      ForForemost p stanza ∧ Foremost r account e ∨
        ¬ForForemost p stanza ∧ OfAccount r account e ∧ 0 ≤ e.session.priority := by
  have wanted : Wanted p r account.toAddress stanza e ↔
      WantedByBare p.highestOnly r account stanza e :=
    ⟨fun wanted => wanted.2.2, fun wanted => ⟨here, kind.single, wanted⟩⟩
  rw [wanted]
  unfold ByPriority at kind
  cases stanza with
  | presence q => simp [Stanza.kind, Stanza.messageType] at kind
  | iq q => simp [WantedByBare, ForForemost, Stanza.kind]
  | message m =>
    cases only : p.highestOnly <;> cases type : m.type <;>
      simp [WantedByBare, ForForemost, Stanza.kind, Stanza.messageType, only, type] at kind ⊢

theorem ByPriority.ofAccount (kind : ByPriority stanza) (here : account.domain = p.localDomain)
    (wanted : Wanted p r account.toAddress stanza e) :
    OfAccount r account e ∧ 0 ≤ e.session.priority := by
  rcases (kind.wanted_iff here e).1 wanted with ⟨_, foremost⟩ | ⟨_, enough⟩
  · exact ⟨foremost.1, foremost.2.1⟩
  · exact enough

theorem Captured.resolve_eq (consistent : site.registry.Consistent)
    (here : address.domain = router.policy.localDomain)
    (single : stanza.messageType ≠ some .groupchat)
    (kept : ¬Dropped router.policy address stanza)
    (captured : Captured router.policy site.registry address stanza) :
    ∃ n, 0 < n ∧ ∀ deliver, router.resolve deliver address stanza site =
      (.reported (.attempted (List.replicate n notAuthenticated)), site) := by
  obtain ⟨⟨e, wanted⟩, dead⟩ := captured
  have mem := mem_chosen consistent router.policy address stanza
  have somebody := List.ne_nil_of_mem ((mem e).2 wanted)
  refine ⟨_, List.length_pos_iff.2 somebody, ?_⟩
  intro deliver
  rw [resolve_of_chosen_ne_nil consistent here single kept somebody, attemptAll_of_dead]
  · exact fun e member => session?_of_mem_chosen consistent member
  · exact fun e member => dead e ((mem e).1 member)

theorem ByPriority.handed_or_captured (kind : ByPriority stanza)
    (consistent : site.registry.Consistent) (here : account.domain = router.policy.localDomain)
    {live : Entry} (known : OfAccount site.registry account live)
    (authenticated : live.session.isAuthenticated = true) (enough : 0 ≤ live.session.priority) :
    (∃ e, OfAccount site.registry account e ∧ e.session.isAuthenticated = true ∧
      IsHanded router account.toAddress stanza site e.id) ∨
    Captured router.policy site.registry account.toAddress stanza ∧
      ForForemost router.policy stanza ∧
      ∃ dead, OfAccount site.registry account dead ∧ dead.session.isAuthenticated = false ∧
        live.session.priority < dead.session.priority := by
  by_cases reached : ∃ e, Wanted router.policy site.registry account.toAddress stanza e ∧
      e.session.isAuthenticated = true
  · obtain ⟨e, wanted, fit⟩ := reached
    exact .inl ⟨e, (kind.ofAccount here wanted).1, fit, isHanded_of_wanted consistent wanted fit⟩
  · have unfit : ∀ e, Wanted router.policy site.registry account.toAddress stanza e →
        e.session.isAuthenticated = false := by
      intro e wanted
      by_contra fit
      exact reached ⟨e, wanted, by simpa using fit⟩
    by_cases only : ForForemost router.policy stanza
    · obtain ⟨best, foremost, above⟩ := exists_foremost consistent known enough
      have wanted := (kind.wanted_iff here best).2 (.inl ⟨only, foremost⟩)
      refine .inr ⟨⟨⟨best, wanted⟩, unfit⟩, only, best, foremost.1, unfit best wanted, ?_⟩
      -- If the two were level, the authenticated one would be foremost as well.
      rcases Int8.lt_or_eq_of_le above with less | level
      · exact less
      · have level : Foremost site.registry account live :=
          ⟨known, enough, fun other there => level ▸ foremost.2.2 other there⟩
        have dead := unfit live ((kind.wanted_iff here live).2 (.inl ⟨only, level⟩))
        rw [authenticated] at dead
        cases dead
    · have dead := unfit live ((kind.wanted_iff here live).2 (.inr ⟨only, known, enough⟩))
      rw [authenticated] at dead
      cases dead

theorem ByPriority.offline_or_captured (kind : ByPriority stanza)
    (consistent : site.registry.Consistent) (here : account.domain = router.policy.localDomain)
    (nobody : ∀ e, OfAccount site.registry account e → e.session.isAuthenticated = false) :
    (∀ deliver, router.resolve deliver account.toAddress stanza site =
      (.reported (router.handleOffline account stanza site).1,
        (router.handleOffline account stanza site).2)) ∨
    Captured router.policy site.registry account.toAddress stanza ∧
      ∃ dead, OfAccount site.registry account dead ∧ 0 ≤ dead.session.priority := by
  have mem := mem_chosen consistent router.policy account.toAddress stanza
  by_cases wanted : ∃ e, Wanted router.policy site.registry account.toAddress stanza e
  · obtain ⟨e, wanted⟩ := wanted
    obtain ⟨known, enough⟩ := kind.ofAccount here wanted
    refine .inr ⟨⟨⟨e, wanted⟩, ?_⟩, e, known, enough⟩
    exact fun other wanted => nobody other (kind.ofAccount here wanted).1
  · have empty : chosen router.policy site.registry account.toAddress stanza = [] := by
      apply List.eq_nil_iff_forall_not_mem.2
      exact fun e member => wanted ⟨e, (mem e).1 member⟩
    exact .inl (resolve_of_chosen_eq_nil here kind.single kind.kept empty)

/-- A query, or a chat or normal message, for a local account gets to an authenticated session
if there is one of non-negative priority, and counts as for an offline account if there is no
authenticated session: unless it is captured, which takes a session that is not authenticated
and that outranks the one where only the foremost are wanted, or that is not negative where
there is none. A captured stanza is reported as processed, and reaches nobody. -/
theorem live_sessions_reached_unless_captured (router : Router) (account : BareAddress)
    (stanza : Stanza) (site : Site) (built : site.registry.Built)
    (here : account.domain = router.policy.localDomain) (kind : ByPriority stanza) :
    (∀ live, OfAccount site.registry account live → live.session.isAuthenticated = true →
      0 ≤ live.session.priority →
      (∃ e, OfAccount site.registry account e ∧ e.session.isAuthenticated = true ∧
        IsHanded router account.toAddress stanza site e.id) ∨
      Captured router.policy site.registry account.toAddress stanza ∧
        ForForemost router.policy stanza ∧
        ∃ dead, OfAccount site.registry account dead ∧ dead.session.isAuthenticated = false ∧
          live.session.priority < dead.session.priority) ∧
    ((∀ e, OfAccount site.registry account e → e.session.isAuthenticated = false) →
      (∀ deliver, router.resolve deliver account.toAddress stanza site =
        (.reported (router.handleOffline account stanza site).1,
          (router.handleOffline account stanza site).2)) ∨
      Captured router.policy site.registry account.toAddress stanza ∧
        ∃ dead, OfAccount site.registry account dead ∧ 0 ≤ dead.session.priority) ∧
    (Captured router.policy site.registry account.toAddress stanza →
      ∃ n, 0 < n ∧ ∀ deliver, router.resolve deliver account.toAddress stanza site =
        (.reported (.attempted (List.replicate n notAuthenticated)), site)) := by
  have consistent := built.consistent
  refine ⟨?_, ?_, ?_⟩
  · intro live known authenticated enough
    exact kind.handed_or_captured consistent here known authenticated enough
  · intro nobody
    exact kind.offline_or_captured consistent here nobody
  · intro captured
    exact captured.resolve_eq consistent here kind.single kind.kept

/-- Two accounts. One has an authenticated session, and another of a higher priority that is
not authenticated yet; the other has only a session that has ended. -/
def dividedHousehold : BareAddress := ⟨some "alice", "waddle.social"⟩

def desertedHousehold : BareAddress := ⟨some "carol", "waddle.social"⟩

def householdPhone : Entry :=
  ⟨⟨dividedHousehold, "phone"⟩, 0,
    ⟨⟨dividedHousehold, "phone"⟩, .authenticated, 1, 16, true, []⟩⟩

def householdTablet : Entry :=
  ⟨⟨dividedHousehold, "tablet"⟩, 1,
    ⟨⟨dividedHousehold, "tablet"⟩, .authenticating, 5, 16, true, []⟩⟩

def householdDesk : Entry :=
  ⟨⟨desertedHousehold, "desk"⟩, 2, ⟨⟨desertedHousehold, "desk"⟩, .ended, 0, 16, true, []⟩⟩

def householdSite : Site where
  registry :=
    let phone := Registry.empty.register householdPhone.session
    let tablet := phone.2.register householdTablet.session
    (tablet.2.register householdDesk.session).2
  accounts := ⟨[dividedHousehold, desertedHousehold], none⟩
  pending := .empty 1000
  online := .empty 0
  sharesStore := false
  components := .empty

theorem built_householdSite : householdSite.registry.Built :=
  ((Built.empty.register _).register _).register _

theorem entries_householdSite :
    householdSite.registry.entries = [householdPhone, householdTablet, householdDesk] := rfl

theorem ofAccount_dividedHousehold :
    OfAccount householdSite.registry dividedHousehold e ↔
      e = householdPhone ∨ e = householdTablet := by
  have desk : householdDesk.key.bare.text ≠ dividedHousehold.text := by decide
  simp only [OfAccount, entries_householdSite, List.mem_cons, List.not_mem_nil, or_false]
  constructor
  · rintro ⟨rfl | rfl | rfl, written⟩
    · exact .inl rfl
    · exact .inr rfl
    · exact absurd written desk
  · rintro (rfl | rfl)
    · exact ⟨.inl rfl, rfl⟩
    · exact ⟨.inr (.inl rfl), rfl⟩

theorem ofAccount_desertedHousehold :
    OfAccount householdSite.registry desertedHousehold e ↔ e = householdDesk := by
  have apart : dividedHousehold.text ≠ desertedHousehold.text := by decide
  simp only [OfAccount, entries_householdSite, List.mem_cons, List.not_mem_nil, or_false]
  constructor
  · rintro ⟨rfl | rfl | rfl, written⟩
    · exact absurd written apart
    · exact absurd written apart
    · rfl
  · rintro rfl
    exact ⟨.inr (.inr rfl), rfl⟩

theorem foremost_dividedHousehold :
    Foremost householdSite.registry dividedHousehold e ↔ e = householdTablet := by
  have most : ∀ other, OfAccount householdSite.registry dividedHousehold other →
      other.session.priority ≤ householdTablet.session.priority := by
    intro other known
    rcases ofAccount_dividedHousehold.1 known with rfl | rfl
    · decide
    · decide
  constructor
  · rintro ⟨known, _, above⟩
    rcases ofAccount_dividedHousehold.1 known with rfl | rfl
    · exact absurd (above _ (ofAccount_dividedHousehold.2 (.inr rfl))) (by decide)
    · rfl
  · rintro rfl
    exact ⟨ofAccount_dividedHousehold.2 (.inr rfl), by decide, most⟩

theorem captured_by_tablet (here : dividedHousehold.domain = p.localDomain)
    (kind : ByPriority stanza) (only : ForForemost p stanza) :
    Captured p householdSite.registry dividedHousehold.toAddress stanza := by
  have wanted : ∀ e, Wanted p householdSite.registry dividedHousehold.toAddress stanza e ↔
      e = householdTablet := by
    intro e
    simp [kind.wanted_iff here, only, foremost_dividedHousehold]
  refine ⟨⟨_, (wanted _).2 rfl⟩, ?_⟩
  intro e asked
  rw [(wanted e).1 asked]
  rfl

theorem captured_by_desk (here : desertedHousehold.domain = p.localDomain)
    (kind : ByPriority stanza) :
    Captured p householdSite.registry desertedHousehold.toAddress stanza := by
  have known := ofAccount_desertedHousehold.2 rfl
  have foremost : Foremost householdSite.registry desertedHousehold householdDesk := by
    refine ⟨known, by decide, ?_⟩
    intro other there
    rw [ofAccount_desertedHousehold.1 there]
    exact Int8.le_refl _
  have enough := foremost.2.1
  refine ⟨⟨householdDesk, (kind.wanted_iff here _).2 ?_⟩, ?_⟩
  · by_cases only : ForForemost p stanza
    · exact .inl ⟨only, foremost⟩
    · exact .inr ⟨only, known, enough⟩
  · intro e asked
    rw [ofAccount_desertedHousehold.1 (kind.ofAccount here asked).1]
    rfl

theorem live_sessions_reached_unless_captured_by_tablet :
    ∃ (router : Router) (stanza : Stanza) (e : Entry),
      dividedHousehold.domain = router.policy.localDomain ∧ ByPriority stanza ∧
      e.session.isAuthenticated = true ∧
      IsHanded router dividedHousehold.toAddress stanza householdSite e.id := by
  let router : Router := ⟨⟨"waddle.social", false⟩, true, false⟩
  let stanza : Stanza := .message ⟨.chat, none, none, none, none, none⟩
  have kind : ByPriority stanza := .inr (.inl rfl)
  have known := ofAccount_dividedHousehold.2 (.inl rfl)
  have reached := (live_sessions_reached_unless_captured router dividedHousehold stanza
    householdSite built_householdSite rfl kind).1 householdPhone known rfl (by decide)
  rcases reached with ⟨e, _, authenticated, handed⟩ | ⟨_, iq | highestOnly, _⟩
  · exact ⟨router, stanza, e, rfl, kind, authenticated, handed⟩
  · cases iq
  · cases highestOnly

/-- A query does not get past it, and a message for the other account is not kept, though the
account exists and messages for offline accounts are kept. Both are reported as processed. -/
theorem dead_sessions_capture :
    ∃ (router : Router) (query message : Stanza),
      query.kind = .iq ∧ message.messageType = some .chat ∧
      dividedHousehold.domain = router.policy.localDomain ∧
      desertedHousehold.domain = router.policy.localDomain ∧ router.keepsOffline = true ∧
      householdSite.accounts.verify desertedHousehold = .ok true ∧
      (∃ live, OfAccount householdSite.registry dividedHousehold live ∧
        live.session.isAuthenticated = true ∧ 0 ≤ live.session.priority) ∧
      (∃ n, 0 < n ∧ ∀ deliver,
        router.resolve deliver dividedHousehold.toAddress query householdSite =
          (.reported (.attempted (List.replicate n notAuthenticated)), householdSite)) ∧
      (∀ e, OfAccount householdSite.registry desertedHousehold e →
        e.session.isAuthenticated = false) ∧
      ∃ n, 0 < n ∧ ∀ deliver,
        router.resolve deliver desertedHousehold.toAddress message householdSite =
          (.reported (.attempted (List.replicate n notAuthenticated)), householdSite) := by
  let router : Router := ⟨⟨"waddle.social", false⟩, true, false⟩
  let query : Stanza := .iq ⟨.get, none, none, "q"⟩
  let message : Stanza := .message ⟨.chat, none, none, none, none, none⟩
  have consistent := built_householdSite.consistent
  have asking : ByPriority query := .inl rfl
  have telling : ByPriority message := .inr (.inl rfl)
  have outranked : Captured router.policy householdSite.registry _ query :=
    captured_by_tablet rfl asking (.inl rfl)
  have abandoned : Captured router.policy householdSite.registry _ message :=
    captured_by_desk rfl telling
  refine ⟨router, query, message, rfl, rfl, rfl, rfl, rfl, by decide +kernel,
    ⟨householdPhone, ofAccount_dividedHousehold.2 (.inl rfl), rfl, by decide⟩,
    outranked.resolve_eq consistent rfl asking.single asking.kept, ?_,
    abandoned.resolve_eq consistent rfl telling.single telling.kept⟩
  intro e known
  rw [ofAccount_desertedHousehold.1 known]
  rfl

end StanzaDelivery.Routing
