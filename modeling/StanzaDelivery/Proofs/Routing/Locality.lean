import StanzaDelivery.Proofs.Address.Written
import StanzaDelivery.Proofs.Routing.Inboxes
import StanzaDelivery.Proofs.Routing.Targets

/-! Where a stanza may end up. A router aims a stanza only at sessions that are bound under
the account of its destination, and only if that is of the local domain; and a target that
was found so stays so, however long the stanza has to wait. -/

namespace StanzaDelivery.Routing

open Registry Handover

variable {p : RoutingPolicy} {r q : Registry} {address : Address} {stanza : Stanza}

theorem OfAccount.isUnder {account : BareAddress} {e : Entry} (entry : OfAccount r account e) :
    e.key.isUnder account = true :=
  FullAddress.isUnder_of_text entry.2

theorem WantedByBare.ofAccount {highestOnly : Bool} {account : BareAddress} {e : Entry}
    (wanted : WantedByBare highestOnly r account stanza e) : OfAccount r account e := by
  unfold WantedByBare at wanted
  split at wanted
  · exact wanted
  · exact wanted.1
  · split at wanted
    · exact wanted
    · split at wanted
      · exact wanted.1
      · exact wanted.1
    · split at wanted
      · exact wanted.1
      · exact wanted.1
    · exact wanted.elim
    · exact wanted.elim

theorem Wanted.isUnder {e : Entry} (wanted : Wanted p r address stanza e) :
    e.key.isUnder address.bare = true := by
  obtain ⟨_, _, wanted⟩ := wanted
  split at wanted
  next resource _ =>
    rcases wanted with ⟨⟨_, written⟩, _⟩ | ⟨_, _, foremost⟩
    · exact (FullAddress.isUnder_iff ..).2 ⟨resource, written⟩
    · exact foremost.1.isUnder
  next => exact wanted.ofAccount.isUnder

/-- The targets are sessions of the local domain under this account, each of them once. -/
structure Targeted (p : RoutingPolicy) (r : Registry) (address : Address)
    (targets : List Target) : Prop where
  distinct : (targets.map (·.id)).Nodup
  domain : ∀ target ∈ targets, address.domain = p.localDomain
  bound : ∀ target ∈ targets, ∃ s, r.session? target.id = some s ∧
    s.address.isUnder address.bare = true

theorem targeted_nil : Targeted p r address [] :=
  ⟨.nil, List.forall_mem_nil _, List.forall_mem_nil _⟩

theorem Targeted.changed {targets : List Target} (targeted : Targeted p r address targets)
    (changed : r.Changed q) : Targeted p q address targets := by
  refine ⟨targeted.distinct, targeted.domain, ?_⟩
  intro target member
  obtain ⟨s, known, under⟩ := targeted.bound target member
  obtain ⟨now, there, same⟩ := changed.address known
  exact ⟨now, there, by rw [same, under]⟩

theorem nodup_chosen (consistent : r.Consistent) (p : RoutingPolicy) (address : Address)
    (stanza : Stanza) : ((chosen p r address stanza).map (·.id)).Nodup := by
  have bound : ∀ e ∈ chosen p r address stanza, e ∈ r.entries := fun e member =>
    ((mem_chosen consistent p address stanza e).1 member).mem_entries
  apply List.pairwise_map.2
  refine (chosen_pairwise consistent p address stanza).imp_of_mem ?_
  intro e f one other before same
  exact before.ne (consistent.eq_of_id (bound e one) (bound f other) same)

theorem chosen_of_aim {ids : List SessionId} (aim : p.aim r address stanza = .sessions ids) :
    ids = (chosen p r address stanza).map (·.id) := by
  have aimed := aimed_aim p r address stanza
  rw [aim] at aimed
  generalize order : chosen p r address stanza = entries at aimed
  generalize sessions : Aim.sessions ids = found at aimed
  cases aimed with
  | component kept => cases sessions
  | refused fault kept => cases sessions
  | nowhere dropped => cases sessions
  | chosen entries kept =>
    unfold Aim.ofEntries at sessions
    split at sessions
    · cases sessions
    · cases sessions
      rfl

theorem targeted_aim (consistent : r.Consistent) {ids : List SessionId}
    (aim : p.aim r address stanza = .sessions ids) :
    Targeted p r address (ids.map (targetOf r)) := by
  have order := chosen_of_aim aim
  have wanted : ∀ target ∈ ids.map (targetOf r),
      ∃ e, Wanted p r address stanza e ∧ e.id = target.id := by
    intro target member
    obtain ⟨id, named, rfl⟩ := List.mem_map.1 member
    rw [order] at named
    obtain ⟨e, chosen, rfl⟩ := List.mem_map.1 named
    exact ⟨e, (mem_chosen consistent p address stanza e).1 chosen, rfl⟩
  refine ⟨?_, ?_, ?_⟩
  · have same : (ids.map (targetOf r)).map (·.id) = ids := by simp [targetOf, Function.comp_def]
    rw [same, order]
    exact nodup_chosen consistent p address stanza
  · intro target member
    obtain ⟨e, asked, _⟩ := wanted target member
    exact asked.1
  · intro target member
    obtain ⟨e, asked, same⟩ := wanted target member
    have entry := asked.mem_entries
    refine ⟨e.session, by rw [← same, (mem_entries.1 entry).2], ?_⟩
    have under := asked.isUnder
    rwa [FullAddress.isUnder, ← consistent.text_session entry] at under

end StanzaDelivery.Routing
