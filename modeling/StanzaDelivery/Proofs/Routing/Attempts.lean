import StanzaDelivery.Proofs.Routing.Inboxes
import StanzaDelivery.Routing.Router

/-! What attempting sessions does to a registry: each of them is acted on once, as it was
found, and no other session is touched. -/

namespace StanzaDelivery.Handover

open Registry

def attemptEntry (deliver : Deliverer) (stanza : Stanza) (e : Entry) : Option Fault × Session :=
  attempt deliver stanza e.session.isAuthenticated e.session

/-- The sessions of these entries, and no others, have been attempted, each of them once
and in this order. -/
structure Attempted (deliver : Deliverer) (stanza : Stanza) (order : List Entry)
    (before : Registry) (faults : List Fault) (after : Registry) : Prop where
  faults : faults = order.filterMap fun e => (attemptEntry deliver stanza e).1
  touched : ∀ e ∈ order, after.session? e.id = some (attemptEntry deliver stanza e).2
  untouched : ∀ id, (∀ e ∈ order, e.id ≠ id) → after.session? id = before.session? id
  directory : after.directory = before.directory

def targetsOf (order : List Entry) : List Target :=
  order.map fun e => ⟨e.id, e.session.isAuthenticated⟩

theorem attemptTarget_eq (deliver : Deliverer) (stanza : Stanza) {e : Entry} {r : Registry}
    (known : r.session? e.id = some e.session) :
    attemptTarget deliver stanza ⟨e.id, e.session.isAuthenticated⟩ r =
      ((attemptEntry deliver stanza e).1,
        r.update e.id fun _ => (attemptEntry deliver stanza e).2) := by
  simp only [attemptTarget, act, known]
  rfl

theorem attemptTarget_of_ineligible (deliver : Deliverer) (stanza : Stanza) {r : Registry}
    {id : SessionId} {s : Session} (known : r.session? id = some s) :
    attemptTarget deliver stanza ⟨id, false⟩ r = (some notAuthenticated, r) := by
  have same : r.sessions.modify id (fun s => s) = r.sessions := by
    apply List.ext_getElem?
    simp [List.getElem?_modify]
  refine Prod.ext ?_ ?_
  · simp [attemptTarget, act, known, attempt]
  · rw [registry_attemptTarget]
    change { r with sessions := r.sessions.modify id fun s => s } = r
    rw [same]

theorem attempted_attemptAll (deliver : Deliverer) (stanza : Stanza) (order : List Entry)
    (r : Registry) (distinct : order.Pairwise fun e f => e.id ≠ f.id)
    (known : ∀ e ∈ order, r.session? e.id = some e.session) :
    Attempted deliver stanza order r (attemptAll deliver stanza (targetsOf order) r).1
      (attemptAll deliver stanza (targetsOf order) r).2 := by
  have ids : (targetsOf order).map (·.id) = order.map (·.id) := by
    rw [targetsOf, List.map_map]
    rfl
  have apart : ((targetsOf order).map (·.id)).Nodup := by
    rw [ids]
    exact List.pairwise_map.2 distinct
  refine ⟨?_, ?_, ?_, directory_attemptAll ..⟩
  · rw [attemptAll_fst deliver stanza apart, targetsOf, List.filterMap_map]
    apply List.filterMap_congr
    intro e member
    simp only [Function.comp_apply, Target.fault?, known e member]
    rfl
  · intro e member
    have aimed : ⟨e.id, e.session.isAuthenticated⟩ ∈ targetsOf order :=
      List.mem_map.2 ⟨e, member, rfl⟩
    rw [session?_attemptAll_of_mem deliver stanza apart aimed, known e member]
    rfl
  · intro id other
    refine session?_attemptAll_of_notMem deliver stanza ?_ r
    rw [ids]
    intro member
    obtain ⟨e, there, same⟩ := List.mem_map.1 member
    exact other e there same

end StanzaDelivery.Handover
