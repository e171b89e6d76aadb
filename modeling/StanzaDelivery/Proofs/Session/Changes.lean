import StanzaDelivery.Proofs.Session.Directory

/-! What becomes of a registry in time. Sessions come, change and go out of the directory;
but the session of a number stays the session of that number, at the address to which it
was bound. -/

namespace StanzaDelivery.Registry

inductive Changed (r : Registry) : Registry → Prop
  | none : Changed r r
  | register {q : Registry} (session : Session) (before : Changed r q) :
      Changed r (q.register session).2
  | unregister {q : Registry} (address : FullAddress) (before : Changed r q) :
      Changed r (q.unregister address).2
  | update {q : Registry} (id : SessionId) (change : Session → Session)
      (stays : ∀ s, (change s).address = s.address) (before : Changed r q) :
      Changed r (q.update id change)
  | cleanUp {q : Registry} (before : Changed r q) : Changed r q.cleanUp.2

variable {r q t : Registry}

theorem Changed.trans (first : r.Changed q) (second : q.Changed t) : r.Changed t := by
  induction second with
  | none => exact first
  | register session before ih => exact ih.register session
  | unregister address before ih => exact ih.unregister address
  | update id change stays before ih => exact ih.update id change stays
  | cleanUp before ih => exact ih.cleanUp

theorem Changed.built (changed : r.Changed q) (built : r.Built) : q.Built := by
  induction changed with
  | none => exact built
  | register session before ih => exact ih.register session
  | unregister address before ih => exact ih.unregister address
  | update id change stays before ih => exact ih.update id change stays
  | cleanUp before ih => exact ih.cleanUp

theorem Changed.address (changed : r.Changed q) {id : SessionId} {s : Session}
    (known : r.session? id = some s) :
    ∃ now, q.session? id = some now ∧ now.address = s.address := by
  induction changed with
  | none => exact ⟨s, known, rfl⟩
  | register session before ih =>
    obtain ⟨now, there, same⟩ := ih
    exact ⟨now, session?_register_of_some session there, same⟩
  | unregister address before ih => exact ih
  | update other change stays before ih =>
    obtain ⟨now, there, same⟩ := ih
    rw [session?_update, there]
    by_cases here : other = id
    · exact ⟨change now, by simp [here], by rw [stays, same]⟩
    · exact ⟨now, by simp [here], same⟩
  | cleanUp before ih => exact ih

/-- The inbox of a session; a session that was never bound has nothing in it. -/
def inbox (r : Registry) (id : SessionId) : List Stanza :=
  ((r.session? id).map Session.inbox).getD []

theorem inbox_of_session? {id : SessionId} {s : Session} (known : r.session? id = some s) :
    r.inbox id = s.inbox := by
  rw [inbox, known]
  rfl

theorem inbox_congr {id : SessionId} (same : q.session? id = r.session? id) :
    q.inbox id = r.inbox id := by
  rw [inbox, inbox, same]

theorem update_congr (r : Registry) (id : SessionId) {change other : Session → Session}
    (same : ∀ s, r.session? id = some s → change s = other s) :
    r.update id change = r.update id other := by
  have sessions : r.sessions.modify id change = r.sessions.modify id other := by
    apply List.ext_getElem?
    intro n
    rw [List.getElem?_modify, List.getElem?_modify]
    by_cases here : id = n
    · subst here
      cases known : r.sessions[id]? with
      | none => rfl
      | some s => simp [same s known]
    · simp [here]
  rw [update, update, sessions]

end StanzaDelivery.Registry
