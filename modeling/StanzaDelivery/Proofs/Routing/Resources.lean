import StanzaDelivery.Proofs.Routing.Recipients

/-! Stanzas for one resource. A stanza for a full address is for the session that is bound
there, if its priority is not negative. A negative priority hides the session even at its own
address, which then counts as vacant; and at a vacant address some kinds of stanza are handed to
the foremost sessions of the account instead, errors in presence among them. -/

namespace StanzaDelivery.Routing

open Registry Handover

variable {p : RoutingPolicy} {r : Registry} {router : Router} {full : FullAddress}
  {stanza : Stanza} {site : Site} {e : Entry} {id : SessionId}

/-- No session of non-negative priority is bound to the full address. -/
def Vacant (r : Registry) (full : FullAddress) : Prop :=
  ¬∃ e, Bound r full e ∧ 0 ≤ e.session.priority

theorem isHanded_full_iff (consistent : site.registry.Consistent)
    (here : full.bare.domain = router.policy.localDomain)
    (single : stanza.messageType ≠ some .groupchat) :
    IsHanded router full.toAddress stanza site id ↔
      ∃ e, WantedByFull site.registry full stanza e ∧ e.session.isAuthenticated = true ∧
        e.id = id := by
  have wanted : ∀ e, Wanted router.policy site.registry full.toAddress stanza e ↔
      WantedByFull site.registry full stanza e :=
    fun e => ⟨fun wanted => wanted.2.2, fun wanted => ⟨here, single, wanted⟩⟩
  simp only [isHanded_iff consistent, wanted]

theorem not_dropped_full (p : RoutingPolicy) (full : FullAddress) (stanza : Stanza) :
    ¬Dropped p full.toAddress stanza := fun dropped => nomatch dropped.2.1

theorem Vacant.resolve_eq (vacant : Vacant site.registry full)
    (consistent : site.registry.Consistent)
    (here : full.toAddress.domain = router.policy.localDomain)
    (single : stanza.messageType ≠ some .groupchat)
    (alone : stanza.permitsBareFallback = false) (deliver : Deliverer) :
    router.resolve deliver full.toAddress stanza site =
      (.reported (router.handleOffline full.bare stanza site).1,
        (router.handleOffline full.bare stanza site).2) := by
  refine resolve_of_chosen_eq_nil here single (not_dropped_full _ full stanza) ?_ deliver
  apply List.eq_nil_iff_forall_not_mem.2
  intro e member
  obtain ⟨_, _, bound | ⟨_, stands, _⟩⟩ := (mem_chosen consistent _ _ _ e).1 member
  · exact vacant ⟨e, bound⟩
  · rw [← permitsBareFallback_iff, alone] at stands
    cases stands

theorem messageType_ne_groupchat_of_answer (answer : stanza.isErrorOrResponse = true) :
    stanza.messageType ≠ some .groupchat := by
  cases stanza with
  | message m => cases type : m.type <;> simp_all [Stanza.isErrorOrResponse, Stanza.messageType]
  | presence q => simp [Stanza.messageType]
  | iq q => simp [Stanza.messageType]

theorem permitsBareFallback_of_answer (answer : stanza.isErrorOrResponse = true) :
    stanza.permitsBareFallback = true ↔ stanza.kind = .presence := by
  cases stanza with
  | message m =>
    cases type : m.type <;>
      simp_all [Stanza.isErrorOrResponse, Stanza.permitsBareFallback, Stanza.kind]
  | presence q => simp [Stanza.permitsBareFallback, Stanza.kind]
  | iq q => simp [Stanza.permitsBareFallback, Stanza.kind]

/-- An error or answer for a full address reaches the session that is bound there and no
other, and where the address is vacant it counts as for an offline account: unless it is an
error in presence, which reaches the foremost sessions of the account in place of the one that
is missing. -/
theorem answers_stay_at_resource_unless_presence (router : Router) (full : FullAddress)
    (stanza : Stanza) (site : Site) (built : site.registry.Built)
    (here : full.bare.domain = router.policy.localDomain)
    (answer : stanza.isErrorOrResponse = true) :
    (∀ id, IsHanded router full.toAddress stanza site id →
      (∃ e, e.id = id ∧ Bound site.registry full e) ∨
      stanza.kind = .presence ∧ Vacant site.registry full ∧
        ∃ e, e.id = id ∧ Foremost site.registry full.bare e) ∧
    (∀ deliver id, ¬IsHanded router full.toAddress stanza site id →
      (router.resolve deliver full.toAddress stanza site).2.registry.session? id =
        site.registry.session? id) ∧
    (stanza.kind ≠ .presence → Vacant site.registry full →
      ∀ deliver, router.resolve deliver full.toAddress stanza site =
        (.reported (router.handleOffline full.bare stanza site).1,
          (router.handleOffline full.bare stanza site).2)) ∧
    (stanza.kind = .presence → Vacant site.registry full →
      ∀ e, Foremost site.registry full.bare e → e.session.isAuthenticated = true →
        IsHanded router full.toAddress stanza site e.id) := by
  have consistent := built.consistent
  have single := messageType_ne_groupchat_of_answer answer
  have permits := permitsBareFallback_of_answer answer
  refine ⟨?_, ?_, ?_, ?_⟩
  · intro id handed
    obtain ⟨e, wanted, _, same⟩ := (isHanded_full_iff consistent here single).1 handed
    rcases wanted with ⟨bound, _⟩ | ⟨vacant, stands, foremost⟩
    · exact .inl ⟨e, same, bound⟩
    · have presence := permits.1 ((permitsBareFallback_iff stanza).2 stands)
      exact .inr ⟨presence, vacant, e, same, foremost⟩
  · exact fun deliver id spared => session?_resolve_of_not_isHanded consistent spared deliver
  · intro other vacant deliver
    have alone : stanza.permitsBareFallback = false :=
      Bool.eq_false_iff.2 fun stands => other (permits.1 stands)
    exact vacant.resolve_eq consistent here single alone deliver
  · intro presence vacant e foremost authenticated
    apply (isHanded_full_iff consistent here single).2
    exact ⟨e, .inr ⟨vacant, .inl presence, foremost⟩, authenticated, rfl⟩

/-- An account with one session, and the address of a resource of it that is gone. -/
def telephone : FullAddress := ⟨⟨some "alice", "waddle.social"⟩, "phone"⟩

def vanished : FullAddress := ⟨⟨some "alice", "waddle.social"⟩, "gone"⟩

def telephoneEntry (priority : Int8) : Entry :=
  ⟨telephone, 0, ⟨telephone, .authenticated, priority, 16, true, []⟩⟩

def telephoneSite (priority : Int8) : Site where
  registry := (Registry.empty.register (telephoneEntry priority).session).2
  accounts := ⟨[telephone.bare], none⟩
  pending := .empty 1000
  online := .empty 0
  sharesStore := false
  components := .empty

theorem built_telephoneSite (priority : Int8) : (telephoneSite priority).registry.Built :=
  Built.empty.register _

theorem mem_telephoneSite (priority : Int8) :
    e ∈ (telephoneSite priority).registry.entries ↔ e = telephoneEntry priority :=
  List.mem_singleton

theorem vacant_vanished (priority : Int8) : Vacant (telephoneSite priority).registry vanished := by
  rintro ⟨e, ⟨member, written⟩, _⟩
  rw [(mem_telephoneSite priority).1 member] at written
  have apart : telephone.text ≠ vanished.text := by decide
  exact apart written

theorem answers_stay_at_resource_unless_presence_when_gone :
    ∃ (router : Router) (stanza : Stanza),
      vanished.bare.domain = router.policy.localDomain ∧ stanza.isErrorOrResponse = true ∧
      stanza.kind ≠ .presence ∧
      ∀ deliver, router.resolve deliver vanished.toAddress stanza (telephoneSite 0) =
        (.reported (.failed .recipientOffline), telephoneSite 0) := by
  let router : Router := ⟨⟨"waddle.social", false⟩, false, false⟩
  let stanza : Stanza := .message ⟨.error, none, none, none, none, none⟩
  refine ⟨router, stanza, rfl, rfl, nofun, ?_⟩
  exact (answers_stay_at_resource_unless_presence router vanished stanza (telephoneSite 0)
    (built_telephoneSite 0) rfl rfl).2.2.1 nofun (vacant_vanished 0)

/-- An error in presence for it is put into the inbox of the session, which is bound to another
address. -/
theorem presence_error_strays :
    ∃ (router : Router) (stanza : Stanza) (e : Entry),
      vanished.bare.domain = router.policy.localDomain ∧ stanza.isErrorOrResponse = true ∧
      e ∈ (telephoneSite 0).registry.entries ∧ ¬Bound (telephoneSite 0).registry vanished e ∧
      IsHanded router vanished.toAddress stanza (telephoneSite 0) e.id ∧
      (router.resolve handoff vanished.toAddress stanza
        (telephoneSite 0)).2.registry.session? e.id = some (e.session.put stanza) := by
  let router : Router := ⟨⟨"waddle.social", false⟩, false, false⟩
  let stanza : Stanza := .presence ⟨.error, none, none, none, none⟩
  have consistent := (built_telephoneSite 0).consistent
  have member := (mem_telephoneSite 0).2 rfl
  have vacant := vacant_vanished 0
  have foremost : Foremost (telephoneSite 0).registry vanished.bare (telephoneEntry 0) := by
    refine ⟨⟨member, rfl⟩, by decide, ?_⟩
    rintro other ⟨there, _⟩
    rw [(mem_telephoneSite 0).1 there]
    exact Int8.le_refl _
  have handed : IsHanded router vanished.toAddress stanza (telephoneSite 0) (telephoneEntry 0).id :=
    (isHanded_full_iff consistent rfl (messageType_ne_groupchat_of_answer rfl)).2
      ⟨_, .inr ⟨vacant, .inl rfl, foremost⟩, rfl, rfl⟩
  refine ⟨router, stanza, _, rfl, rfl, member, ?_, handed, ?_⟩
  · exact fun bound => vacant ⟨_, bound, by decide⟩
  · obtain ⟨s, known, after⟩ := handed
    rw [after handoff]
    cases known
    rfl

theorem chosen_of_bound (consistent : r.Consistent) (here : full.toAddress.domain = p.localDomain)
    (single : stanza.messageType ≠ some .groupchat) (bound : Bound r full e)
    (enough : 0 ≤ e.session.priority) : chosen p r full.toAddress stanza = [e] := by
  have mem := mem_chosen consistent p full.toAddress stanza
  have only : ∀ other ∈ chosen p r full.toAddress stanza, other = e := by
    intro other member
    obtain ⟨_, _, found | ⟨vacant, _⟩⟩ := (mem other).1 member
    · exact consistent.eq_of_text found.1.1 bound.1 (found.1.2.trans bound.2.symm)
    · exact absurd ⟨e, bound, enough⟩ vacant
  have distinct : (chosen p r full.toAddress stanza).Nodup :=
    (chosen_pairwise consistent p full.toAddress stanza).imp Entry.Before.ne
  apply List.perm_singleton.1
  apply (List.perm_ext_iff_of_nodup distinct (List.pairwise_singleton _ e)).2
  intro other
  rw [List.mem_singleton]
  refine ⟨only other, ?_⟩
  rintro rfl
  exact (mem other).2 ⟨here, single, .inl ⟨bound, enough⟩⟩

theorem attemptEntry_handoff (authenticated : e.session.isAuthenticated = true)
    (connected : e.session.connected = true) (room : e.session.hasRoom = true) :
    attemptEntry handoff stanza e = (none, e.session.put stanza) := by
  simp [attemptEntry, attempt, handoff, Handover.accept, Session.accept, authenticated, connected,
    room, Attempt.fault?]

theorem vacant_of_negative (consistent : r.Consistent) (bound : Bound r full e)
    (negative : e.session.priority < 0) : Vacant r full := by
  rintro ⟨other, there, enough⟩
  obtain rfl := consistent.eq_of_text there.1 bound.1 (there.2.trans bound.2.symm)
  exact Int8.not_le.2 negative enough

/-- A stanza for a full address is handed to the session bound there and to no other, and a
session that has room for it takes it without a fault: unless the priority of the session is
negative. Then it gets nothing at its own address, and others of the account may get the
stanza instead. -/
theorem bound_resource_gets_it_unless_negative (router : Router) (full : FullAddress)
    (stanza : Stanza) (site : Site) (built : site.registry.Built)
    (here : full.bare.domain = router.policy.localDomain)
    (single : stanza.messageType ≠ some .groupchat) (e : Entry)
    (bound : Bound site.registry full e) (authenticated : e.session.isAuthenticated = true)
    (connected : e.session.connected = true) (room : e.session.hasRoom = true) :
    (0 ≤ e.session.priority →
      (∀ id, IsHanded router full.toAddress stanza site id ↔ id = e.id) ∧
      (∀ deliver id, id ≠ e.id →
        (router.resolve deliver full.toAddress stanza site).2.registry.session? id =
          site.registry.session? id) ∧
      router.resolve handoff full.toAddress stanza site =
        (.reported (.attempted []),
          { site with registry := site.registry.update e.id fun _ => e.session.put stanza })) ∧
    (e.session.priority < 0 →
      ¬IsHanded router full.toAddress stanza site e.id ∧
      (∀ deliver, (router.resolve deliver full.toAddress stanza site).2.registry.session? e.id =
        some e.session) ∧
      (∀ id, IsHanded router full.toAddress stanza site id →
        stanza.permitsBareFallback = true ∧
          ∃ other, other.id = id ∧ Foremost site.registry full.bare other) ∧
      (stanza.permitsBareFallback = false →
        ∀ deliver, router.resolve deliver full.toAddress stanza site =
          (.reported (router.handleOffline full.bare stanza site).1,
            (router.handleOffline full.bare stanza site).2))) := by
  have consistent := built.consistent
  have known := (mem_entries.1 bound.1).2
  constructor
  · intro enough
    have here : full.toAddress.domain = router.policy.localDomain := here
    have only := chosen_of_bound consistent here single bound enough
    have exact : ∀ id, IsHanded router full.toAddress stanza site id ↔ id = e.id := by
      intro id
      simp only [isHanded_iff consistent, ← mem_chosen consistent, only, List.mem_singleton]
      constructor
      · rintro ⟨_, rfl, _, rfl⟩
        rfl
      · rintro rfl
        exact ⟨e, rfl, authenticated, rfl⟩
    refine ⟨exact, ?_, ?_⟩
    · intro deliver id other
      refine session?_resolve_of_not_isHanded consistent ?_ deliver
      exact fun handed => other ((exact id).1 handed)
    · have somebody : chosen router.policy site.registry full.toAddress stanza ≠ [] :=
        only ▸ List.cons_ne_nil e []
      have kept := not_dropped_full router.policy full stanza
      rw [resolve_of_chosen_ne_nil consistent here single kept somebody, only]
      have first := attemptTarget_eq handoff stanza known
      rw [attemptEntry_handoff authenticated connected room] at first
      simp only [targetsOf, List.map_cons, List.map_nil, attemptAll, first]
      rfl
  · intro negative
    have vacant := vacant_of_negative consistent bound negative
    have foremost : ∀ id, IsHanded router full.toAddress stanza site id →
        stanza.permitsBareFallback = true ∧
          ∃ other, other.id = id ∧ Foremost site.registry full.bare other := by
      intro id handed
      obtain ⟨other, there | ⟨_, stands, foremost⟩, _, same⟩ :=
        (isHanded_full_iff consistent here single).1 handed
      · exact absurd ⟨other, there⟩ vacant
      · exact ⟨(permitsBareFallback_iff stanza).2 stands, other, same, foremost⟩
    have spared : ¬IsHanded router full.toAddress stanza site e.id := by
      intro handed
      obtain ⟨_, other, same, ⟨member, _⟩, enough, _⟩ := foremost e.id handed
      obtain rfl := consistent.eq_of_id member bound.1 same
      exact Int8.not_le.2 negative enough
    refine ⟨spared, ?_, foremost, vacant.resolve_eq consistent here single⟩
    intro deliver
    rw [session?_resolve_of_not_isHanded consistent spared deliver, known]

theorem bound_resource_gets_it_unless_negative_at_zero :
    ∃ (router : Router) (stanza : Stanza),
      telephone.bare.domain = router.policy.localDomain ∧ stanza.kind = .iq ∧
      Bound (telephoneSite 0).registry telephone (telephoneEntry 0) ∧
      (router.resolve handoff telephone.toAddress stanza (telephoneSite 0)).1 =
        .reported (.attempted []) ∧
      (router.resolve handoff telephone.toAddress stanza (telephoneSite 0)).2.registry.session? 0 =
        some ((telephoneEntry 0).session.put stanza) := by
  let router : Router := ⟨⟨"waddle.social", false⟩, false, false⟩
  let stanza : Stanza := .iq ⟨.result, none, none, "q"⟩
  have bound : Bound (telephoneSite 0).registry telephone (telephoneEntry 0) :=
    ⟨(mem_telephoneSite 0).2 rfl, rfl⟩
  obtain ⟨_, _, resolved⟩ := (bound_resource_gets_it_unless_negative router telephone stanza
    (telephoneSite 0) (built_telephoneSite 0) rfl nofun (telephoneEntry 0) bound rfl rfl
    (by decide)).1 (by decide)
  refine ⟨router, stanza, rfl, rfl, bound, ?_, ?_⟩
  · rw [resolved]
  · rw [resolved]
    rfl

/-- With a negative priority the phone does not get it, though it is bound to the very address
and has room; its account is told to be offline, and nothing at all changes. -/
theorem negative_resource_is_missed :
    ∃ (router : Router) (stanza : Stanza),
      telephone.bare.domain = router.policy.localDomain ∧
      stanza.messageType ≠ some .groupchat ∧
      Bound (telephoneSite (-1)).registry telephone (telephoneEntry (-1)) ∧
      (telephoneEntry (-1)).session.isAuthenticated = true ∧
      (telephoneEntry (-1)).session.connected = true ∧
      (telephoneEntry (-1)).session.hasRoom = true ∧
      ¬IsHanded router telephone.toAddress stanza (telephoneSite (-1)) (telephoneEntry (-1)).id ∧
      ∀ deliver, router.resolve deliver telephone.toAddress stanza (telephoneSite (-1)) =
        (.reported (.failed .recipientOffline), telephoneSite (-1)) := by
  let router : Router := ⟨⟨"waddle.social", false⟩, false, false⟩
  let stanza : Stanza := .iq ⟨.result, none, none, "q"⟩
  have consistent := (built_telephoneSite (-1)).consistent
  have bound : Bound (telephoneSite (-1)).registry telephone (telephoneEntry (-1)) :=
    ⟨(mem_telephoneSite (-1)).2 rfl, rfl⟩
  have vacant := vacant_of_negative consistent bound (by decide)
  have here : telephone.toAddress.domain = router.policy.localDomain := rfl
  have single : stanza.messageType ≠ some .groupchat := nofun
  refine ⟨router, stanza, rfl, single, bound, rfl, rfl, by decide, ?_,
    vacant.resolve_eq consistent here single rfl⟩
  rw [isHanded_full_iff consistent here single]
  rintro ⟨e, there | ⟨_, stands, _⟩, _⟩
  · exact vacant ⟨e, there⟩
  · rw [← permitsBareFallback_iff] at stands
    cases stands

end StanzaDelivery.Routing
