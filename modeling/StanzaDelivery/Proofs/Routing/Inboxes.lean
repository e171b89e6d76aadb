import Mathlib.Data.List.Basic
import StanzaDelivery.Proofs.Session.Changes
import StanzaDelivery.Routing.Handover

/-! What attempts do to inboxes. Targets are known by number, and may have been looked at
long ago; a target that is handed a stanza gets it once, into its own inbox, whatever the
other targets do with theirs. -/

namespace StanzaDelivery.Handover

open Registry

theorem registry_attemptTarget (deliver : Deliverer) (stanza : Stanza) (target : Target)
    (r : Registry) :
    (attemptTarget deliver stanza target r).2 =
      r.update target.id fun s => (attempt deliver stanza target.eligible s).2 := by
  rw [attemptTarget, act]
  cases known : r.session? target.id with
  | none =>
    have nobody : r.sessions.length ≤ target.id := List.getElem?_eq_none_iff.1 known
    simp [update, List.modify_eq_self nobody]
  | some s =>
    apply r.update_congr target.id
    intro found same
    rw [known] at same
    cases same
    rfl

theorem session?_attemptTarget (deliver : Deliverer) (stanza : Stanza) (target : Target)
    (r : Registry) (id : SessionId) :
    (attemptTarget deliver stanza target r).2.session? id = (r.session? id).map fun s =>
      if target.id = id then (attempt deliver stanza target.eligible s).2 else s := by
  rw [registry_attemptTarget, session?_update]

theorem session?_attemptAll_of_notMem (deliver : Deliverer) (stanza : Stanza)
    {targets : List Target} {id : SessionId} (other : id ∉ targets.map (·.id)) (r : Registry) :
    (attemptAll deliver stanza targets r).2.session? id = r.session? id := by
  induction targets generalizing r with
  | nil => rfl
  | cons target rest ih =>
    rw [List.map_cons, List.mem_cons, not_or] at other
    simp only [attemptAll]
    rw [ih other.2, session?_attemptTarget]
    simp [Ne.symm other.1]

theorem session?_attemptAll_of_mem (deliver : Deliverer) (stanza : Stanza)
    {targets : List Target} (distinct : (targets.map (·.id)).Nodup) {target : Target}
    (member : target ∈ targets) (r : Registry) :
    (attemptAll deliver stanza targets r).2.session? target.id =
      (r.session? target.id).map fun s => (attempt deliver stanza target.eligible s).2 := by
  induction targets generalizing r with
  | nil => cases member
  | cons first rest ih =>
    obtain ⟨apart, distinct⟩ := List.nodup_cons.1 distinct
    simp only [attemptAll]
    rcases List.mem_cons.1 member with rfl | later
    · rw [session?_attemptAll_of_notMem deliver stanza apart, session?_attemptTarget]
      simp
    · have other : first.id ≠ target.id := fun same =>
        apart (List.mem_map.2 ⟨target, later, same.symm⟩)
      rw [ih distinct later, session?_attemptTarget]
      simp [other]

def Target.fault? (deliver : Deliverer) (stanza : Stanza) (r : Registry) (target : Target) :
    Option Fault :=
  (r.session? target.id).bind fun s => (attempt deliver stanza target.eligible s).1

theorem attemptTarget_fst (deliver : Deliverer) (stanza : Stanza) (target : Target)
    (r : Registry) :
    (attemptTarget deliver stanza target r).1 = target.fault? deliver stanza r := by
  rw [attemptTarget, act, Target.fault?]
  cases r.session? target.id <;> rfl

theorem attemptAll_fst (deliver : Deliverer) (stanza : Stanza) {targets : List Target}
    (distinct : (targets.map (·.id)).Nodup) (r : Registry) :
    (attemptAll deliver stanza targets r).1 =
      targets.filterMap (Target.fault? deliver stanza r) := by
  induction targets generalizing r with
  | nil => rfl
  | cons target rest ih =>
    obtain ⟨apart, distinct⟩ := List.nodup_cons.1 distinct
    have others : rest.filterMap
        (Target.fault? deliver stanza (attemptTarget deliver stanza target r).2) =
        rest.filterMap (Target.fault? deliver stanza r) := by
      apply List.filterMap_congr
      intro later member
      have other : target.id ≠ later.id := fun same =>
        apart (List.mem_map.2 ⟨later, member, same.symm⟩)
      simp [Target.fault?, session?_attemptTarget, other]
    simp only [attemptAll]
    rw [ih distinct, attemptTarget_fst, others]
    cases fault : target.fault? deliver stanza r <;> simp [fault]

theorem changed_attemptAll {deliver : Deliverer}
    (stays : ∀ stanza s, (deliver stanza s).2.address = s.address) (stanza : Stanza)
    (targets : List Target) (r : Registry) :
    r.Changed (attemptAll deliver stanza targets r).2 := by
  induction targets generalizing r with
  | nil => exact .none
  | cons target rest ih =>
    simp only [attemptAll]
    refine Changed.trans ?_ (ih _)
    rw [registry_attemptTarget]
    refine .update _ _ ?_ .none
    intro s
    unfold attempt
    split
    · exact stays stanza s
    · rfl

def takes (s : Session) : Bool := s.isAuthenticated && s.connected && s.hasRoom

theorem handoff_snd (stanza : Stanza) (s : Session) :
    (handoff stanza s).2 = if takes s then s.put stanza else s := by
  unfold handoff takes accept Session.accept
  cases s.isAuthenticated <;> cases s.connected <;> cases s.hasRoom <;> rfl

theorem attempt_handoff_snd (stanza : Stanza) (eligible : Bool) (s : Session) :
    (attempt handoff stanza eligible s).2 = if eligible && takes s then s.put stanza else s := by
  cases eligible with
  | false => rfl
  | true => simpa [attempt] using handoff_snd stanza s

/-- How a session answers when a stanza is handed off to it: it takes the stanza, for which it
has to be authenticated and connected, and its inbox must have room; or it stays as it is, and
there is one fault. -/
inductive Answered (stanza : Stanza) (eligible : Bool) (s : Session) :
    Option Fault → Session → Prop
  | taken (fit : eligible = true) (state : s.state = .authenticated)
      (live : s.connected = true) (room : s.inbox.length < s.capacity) :
      Answered stanza eligible s none (s.put stanza)
  | refused (fault : Fault) (kind : fault.kind = .failed)
      (cause : eligible = false ∨ s.state ≠ .authenticated ∨ s.connected = false ∨
        s.capacity ≤ s.inbox.length) :
      Answered stanza eligible s (some fault) s

theorem answered_attempt (stanza : Stanza) (eligible : Bool) (s : Session) :
    Answered stanza eligible s (attempt handoff stanza eligible s).1
      (attempt handoff stanza eligible s).2 := by
  unfold attempt handoff accept Session.accept
  cases fit : eligible with
  | false => exact .refused _ rfl (.inl rfl)
  | true =>
    cases state : s.isAuthenticated with
    | false => exact .refused _ rfl (.inr (.inl (of_decide_eq_false state)))
    | true =>
      cases live : s.connected with
      | false => exact .refused _ rfl (.inr (.inr (.inl live)))
      | true =>
        cases room : s.hasRoom with
        | false =>
          have full : s.capacity ≤ s.inbox.length := Nat.not_lt.1 (of_decide_eq_false room)
          exact .refused _ rfl (.inr (.inr (.inr full)))
        | true => exact .taken rfl (of_decide_eq_true state) live (of_decide_eq_true room)

theorem address_handoff (stanza : Stanza) (s : Session) :
    (handoff stanza s).2.address = s.address := by
  rw [handoff_snd]
  split <;> rfl

theorem inbox_attemptAll (stanza : Stanza) {targets : List Target}
    (distinct : (targets.map (·.id)).Nodup) (r : Registry) (id : SessionId) :
    (attemptAll handoff stanza targets r).2.inbox id = r.inbox id ∨
      (attemptAll handoff stanza targets r).2.inbox id = r.inbox id ++ [stanza] ∧
        id ∈ targets.map (·.id) := by
  by_cases aimed : id ∈ targets.map (·.id)
  · obtain ⟨target, member, rfl⟩ := List.mem_map.1 aimed
    have after := session?_attemptAll_of_mem handoff stanza distinct member r
    cases known : r.session? target.id with
    | none =>
      left
      exact inbox_congr (by rw [after, known]; rfl)
    | some s =>
      rw [known, Option.map_some, attempt_handoff_snd] at after
      rw [inbox_of_session? after, inbox_of_session? known]
      by_cases fits : target.eligible && takes s
      · right
        rw [if_pos fits]
        exact ⟨rfl, aimed⟩
      · left
        rw [if_neg fits]
  · left
    exact inbox_congr (session?_attemptAll_of_notMem handoff stanza aimed r)

end StanzaDelivery.Handover
