import StanzaDelivery.Proofs.Session.Priority
import StanzaDelivery.Session.Registry

/-! The directory of a registry is a map: no two of its entries are written the same, and
each leads to a session that is bound to the address of the entry. A lookup finds every
entry that it asks for, once, in the canonical order. -/

namespace StanzaDelivery.Registry

structure Consistent (r : Registry) : Prop where
  distinct : r.directory.Pairwise fun found other => found.1.text ≠ other.1.text
  bound : ∀ found ∈ r.directory,
    ∃ s, r.session? found.2 = some s ∧ s.address.text = found.1.text

/-- The registries there are. Sessions may change in any way, but stay at their address. -/
inductive Built : Registry → Prop
  | empty : Built .empty
  | register {r : Registry} (session : Session) (before : Built r) : Built (r.register session).2
  | unregister {r : Registry} (address : FullAddress) (before : Built r) :
      Built (r.unregister address).2
  | update {r : Registry} (id : SessionId) (change : Session → Session)
      (stays : ∀ s, (change s).address = s.address) (before : Built r) :
      Built (r.update id change)
  | cleanUp {r : Registry} (before : Built r) : Built r.cleanUp.2

theorem Consistent.of_sublist {r : Registry} (consistent : r.Consistent)
    {directory : List (FullAddress × SessionId)} (fewer : directory.Sublist r.directory) :
    Consistent { r with directory := directory } :=
  ⟨consistent.distinct.sublist fewer,
    fun found member => consistent.bound found (fewer.subset member)⟩

theorem Consistent.update {r : Registry} (consistent : r.Consistent) (id : SessionId)
    (change : Session → Session) (stays : ∀ s, (change s).address = s.address) :
    (r.update id change).Consistent := by
  refine ⟨consistent.distinct, ?_⟩
  intro found member
  obtain ⟨s, known, written⟩ := consistent.bound found member
  rw [session?_update, known]
  by_cases same : id = found.2
  · exact ⟨change s, by simp [same], by rw [stays, written]⟩
  · exact ⟨s, by simp [same], written⟩

theorem session?_register_of_some {r : Registry} {id : SessionId} {s : Session} (session : Session)
    (known : r.session? id = some s) : (r.register session).2.session? id = some s := by
  have inside := (List.getElem?_eq_some_iff.1 known).1
  rw [session?, sessions_register, List.getElem?_append_left inside]
  exact known

theorem Consistent.register {r : Registry} (consistent : r.Consistent) (session : Session) :
    (r.register session).2.Consistent := by
  have new := session?_register_self r session
  have old : ∀ found ∈ r.directory, ∃ s, (r.register session).2.session? found.2 = some s ∧
      s.address.text = found.1.text := by
    intro found member
    obtain ⟨s, known, written⟩ := consistent.bound found member
    exact ⟨s, session?_register_of_some session known, written⟩
  by_cases taken : r.directory.any (·.1.text == session.address.text)
  · -- The entry keeps its key and leads to the new session.
    have directory : (r.register session).2.directory = r.directory.map fun found =>
        if found.1.text == session.address.text then (found.1, r.sessions.length) else found := by
      simp only [Registry.register, directoryWith, taken, if_true]
    refine ⟨?_, ?_⟩
    · rw [directory]
      refine consistent.distinct.map _ ?_
      intro found other different
      by_cases one : found.1.text == session.address.text <;>
        by_cases two : other.1.text == session.address.text <;> simpa [one, two] using different
    · rw [directory]
      intro found member
      obtain ⟨before, there, rfl⟩ := List.mem_map.1 member
      split
      next same => exact ⟨session, new, (beq_iff_eq.1 same).symm⟩
      next => exact old before there
  · have directory : (r.register session).2.directory =
        r.directory ++ [(session.address, r.sessions.length)] := by
      simp only [Registry.register, directoryWith, taken, Bool.false_eq_true, if_false]
    refine ⟨?_, ?_⟩
    · rw [directory, List.pairwise_append]
      refine ⟨consistent.distinct, List.pairwise_singleton _ _, ?_⟩
      intro found member other last
      rw [List.mem_singleton.1 last]
      intro same
      exact taken (List.any_eq_true.2 ⟨found, member, beq_iff_eq.2 same⟩)
    · rw [directory]
      intro found member
      rcases List.mem_append.1 member with before | last
      · exact old found before
      · rw [List.mem_singleton.1 last]
        exact ⟨session, new, rfl⟩

theorem Built.consistent {r : Registry} (built : r.Built) : r.Consistent := by
  induction built with
  | empty => exact ⟨.nil, fun _ member => nomatch member⟩
  | register session before ih => exact ih.register session
  | unregister address before ih => exact ih.of_sublist List.filter_sublist
  | update id change stays before ih => exact ih.update id change stays
  | cleanUp before ih => exact ih.of_sublist List.filter_sublist

theorem mem_entries {r : Registry} {e : Entry} :
    e ∈ r.entries ↔ (e.key, e.id) ∈ r.directory ∧ r.session? e.id = some e.session := by
  rw [entries, List.mem_filterMap]
  constructor
  · rintro ⟨found, member, leads⟩
    obtain ⟨s, known, rfl⟩ := Option.map_eq_some_iff.1 leads
    exact ⟨member, known⟩
  · rintro ⟨member, known⟩
    exact ⟨(e.key, e.id), member, Option.map_eq_some_iff.2 ⟨e.session, known, rfl⟩⟩

theorem Consistent.entries_distinct {r : Registry} (consistent : r.Consistent) :
    r.entries.Pairwise fun e f => e.key.text ≠ f.key.text := by
  rw [entries, List.pairwise_filterMap]
  apply consistent.distinct.imp
  intro found other different e leads f follows
  obtain ⟨_, _, rfl⟩ := Option.map_eq_some_iff.1 leads
  obtain ⟨_, _, rfl⟩ := Option.map_eq_some_iff.1 follows
  exact different

theorem Consistent.eq_of_text {r : Registry} (consistent : r.Consistent) {e f : Entry}
    (one : e ∈ r.entries) (other : f ∈ r.entries) (same : e.key.text = f.key.text) : e = f := by
  have different := consistent.entries_distinct
  refine List.Pairwise.forall_of_forall_of_flip
    (R := fun e f : Entry => e.key.text = f.key.text → e = f) ?_ ?_ ?_ one other same
  · exact fun _ _ _ => rfl
  · exact different.imp fun apart same => absurd same apart
  · exact different.imp fun apart same => absurd same.symm apart

theorem Consistent.text_session {r : Registry} (consistent : r.Consistent) {e : Entry}
    (member : e ∈ r.entries) : e.session.address.text = e.key.text := by
  obtain ⟨bound, known⟩ := mem_entries.1 member
  obtain ⟨s, same, written⟩ := consistent.bound _ bound
  rw [known] at same
  cases same
  exact written

theorem Consistent.eq_of_id {r : Registry} (consistent : r.Consistent) {e f : Entry}
    (one : e ∈ r.entries) (other : f ∈ r.entries) (same : e.id = f.id) : e = f := by
  have first := (mem_entries.1 one).2
  have second := (mem_entries.1 other).2
  rw [same, second] at first
  apply consistent.eq_of_text one other
  rw [← consistent.text_session one, ← consistent.text_session other, Option.some.inj first]

def Entry.IsFor (e : Entry) (address : Address) : Prop :=
  match address.full? with
  | some full => e.key.text = full.text
  | none => e.key.bare.text = address.bare.text

/-- The canonical order, in which no two sessions of a registry are level. -/
def Entry.Before (a b : Entry) : Prop :=
  b.session.priority < a.session.priority ∨
    a.session.priority = b.session.priority ∧ a.session.address.text < b.session.address.text

theorem Entry.Before.ne {a b : Entry} (before : a.Before b) : a ≠ b := by
  rintro rfl
  rcases before with less | ⟨_, less⟩
  · exact Int8.lt_irrefl less
  · exact String.lt_irrefl _ less

theorem precedes_iff (a b : Entry) :
    precedes a b = true ↔ b.session.priority < a.session.priority ∨
      a.session.priority = b.session.priority ∧
        a.session.address.text ≤ b.session.address.text := by
  simp [precedes]

theorem precedes_trans (a b c : Entry) (first : precedes a b = true)
    (second : precedes b c = true) : precedes a c = true := by
  rw [precedes_iff] at *
  rcases first with above | ⟨level, below⟩
  · rcases second with higher | ⟨same, _⟩
    · exact .inl (Int8.lt_trans higher above)
    · exact .inl (same ▸ above)
  · rcases second with higher | ⟨same, further⟩
    · exact .inl (level ▸ higher)
    · exact .inr ⟨level.trans same, String.le_trans below further⟩

theorem precedes_total (a b : Entry) : (precedes a b || precedes b a) = true := by
  rw [Bool.or_eq_true, precedes_iff, precedes_iff]
  rcases Int8.le_total a.session.priority b.session.priority with below | above
  · rcases Int8.lt_or_eq_of_le below with less | level
    · exact .inr (.inl less)
    · rcases String.le_total a.session.address.text b.session.address.text with first | last
      · exact .inl (.inr ⟨level, first⟩)
      · exact .inr (.inr ⟨level.symm, last⟩)
  · rcases Int8.lt_or_eq_of_le above with less | level
    · exact .inl (.inl less)
    · rcases String.le_total a.session.address.text b.session.address.text with first | last
      · exact .inl (.inr ⟨level.symm, first⟩)
      · exact .inr (.inr ⟨level, last⟩)

theorem Consistent.sorted_pairwise {r : Registry} (consistent : r.Consistent)
    {entries : List Entry} (some : entries.Sublist r.entries) :
    (sorted entries).Pairwise Entry.Before := by
  have distinct : (sorted entries).Pairwise fun e f => e.key.text ≠ f.key.text := by
    refine (List.Perm.pairwise_iff ?_ (List.mergeSort_perm entries precedes)).2 ?_
    · exact Ne.symm
    · exact consistent.entries_distinct.sublist some
  have ordered := List.pairwise_mergeSort precedes_trans precedes_total entries
  refine (distinct.and ordered).imp_of_mem ?_
  intro a b one other ⟨different, order⟩
  have one := some.subset (List.mem_mergeSort.1 one)
  have other := some.subset (List.mem_mergeSort.1 other)
  rw [← consistent.text_session one, ← consistent.text_session other] at different
  rcases (precedes_iff a b).1 order with above | ⟨level, first⟩
  · exact .inl above
  · exact .inr ⟨level, Std.lt_of_le_of_ne first different⟩

theorem Consistent.sessionsFor_pairwise {r : Registry} (consistent : r.Consistent)
    (address : Address) : (r.sessionsFor address).Pairwise Entry.Before := by
  unfold sessionsFor
  split
  · cases r.find? _ with
    | none => exact .nil
    | some e => exact List.pairwise_singleton _ _
  · exact consistent.sorted_pairwise List.filter_sublist

theorem Consistent.mem_find? {r : Registry} (consistent : r.Consistent) (full : FullAddress)
    (e : Entry) : r.find? full = some e ↔ e ∈ r.entries ∧ e.key.text = full.text := by
  rw [find?]
  constructor
  · intro found
    have written := List.find?_some found
    exact ⟨List.mem_of_find?_eq_some found, beq_iff_eq.1 written⟩
  · rintro ⟨member, written⟩
    cases found : r.entries.find? (·.key.text == full.text) with
    | none =>
      have nothing := List.find?_eq_none.1 found e member
      simp [written] at nothing
    | some other =>
      have reached := List.find?_some found
      have same := written.trans (beq_iff_eq.1 reached).symm
      rw [consistent.eq_of_text member (List.mem_of_find?_eq_some found) same]

theorem Consistent.mem_sessionsFor {r : Registry} (consistent : r.Consistent) (address : Address)
    (e : Entry) : e ∈ r.sessionsFor address ↔ e ∈ r.entries ∧ e.IsFor address := by
  rw [sessionsFor, Entry.IsFor]
  cases form : address.full? with
  | some full =>
    rw [Option.mem_toList]
    exact consistent.mem_find? full e
  | none => simp [sorted, ofAccount]

theorem query_sublist (r : Registry) (q : Priority.Query) (address : Address) :
    (r.query q address).Sublist (r.sessionsFor address) := by
  have chosen := (q.choose_sublist ((r.sessionsFor address).map fun entry =>
    (entry.session.priority, entry))).map Prod.snd
  rw [List.map_map] at chosen
  rw [query_eq]
  simpa [Priority.candidates, Function.comp_def] using chosen

theorem mem_query {r : Registry} {q : Priority.Query} {address : Address} {e : Entry} :
    e ∈ r.query q address ↔ (e.session.priority, e) ∈
      q.choose ((r.sessionsFor address).map fun entry => (entry.session.priority, entry)) := by
  rw [query_eq, Priority.candidates, List.mem_map]
  constructor
  · rintro ⟨⟨priority, entry⟩, chosen, rfl⟩
    obtain ⟨_, _, same⟩ := List.mem_map.1 ((q.choose_sublist _).subset chosen)
    cases same
    exact chosen
  · intro chosen
    exact ⟨_, chosen, rfl⟩

theorem mem_query_atLeast {r : Registry} {threshold : Int8} {address : Address} {e : Entry} :
    e ∈ r.query (.atLeast threshold) address ↔
      e ∈ r.sessionsFor address ∧ threshold ≤ e.session.priority := by
  rw [mem_query, Priority.Query.choose, Priority.mem_atLeast]
  simp

theorem mem_query_highest {r : Registry} {threshold : Int8} {address : Address} {e : Entry} :
    e ∈ r.query (.highest threshold) address ↔
      e ∈ r.sessionsFor address ∧ threshold ≤ e.session.priority ∧
        ∀ other ∈ r.sessionsFor address, other.session.priority ≤ e.session.priority := by
  rw [mem_query, Priority.Query.choose, Priority.mem_highest]
  simp

end StanzaDelivery.Registry
