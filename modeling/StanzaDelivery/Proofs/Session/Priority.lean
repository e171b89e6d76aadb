import StanzaDelivery.Session.Priority

/-! What a choice by priority comes to: which candidates are in it, and that they stand in
it as they stood before. -/

namespace StanzaDelivery.Priority

variable {α β : Type}

instance lawfulOrderMaxInt8 : Std.LawfulOrderMax Int8 := by
  have larger : ∀ a b : Int8, max a b = if a ≤ b then b else a := fun _ _ => rfl
  apply Std.LawfulOrderMax.of_max_le_iff
  · intro a b c
    rw [larger]
    split
    next order => exact ⟨fun below => ⟨Int8.le_trans order below, below⟩, And.right⟩
    next order =>
      have order := (Int8.le_total a b).resolve_left order
      exact ⟨fun below => ⟨below, Int8.le_trans order below⟩, And.left⟩
  · intro a b
    rw [larger]
    split
    · exact .inr rfl
    · exact .inl rfl

theorem best?_eq_some_iff (read : List (Int8 × α)) (best : Int8) :
    best? read = some best ↔
      (∃ entry ∈ read, entry.1 = best) ∧ ∀ entry ∈ read, entry.1 ≤ best := by
  rw [best?, List.max?_eq_some_iff, List.forall_mem_map, List.mem_map]

theorem best?_eq_none_iff (read : List (Int8 × α)) : best? read = none ↔ read = [] := by
  rw [best?, List.max?_eq_none_iff, List.map_eq_nil_iff]

theorem mem_highest (threshold : Int8) (read : List (Int8 × α)) (entry : Int8 × α) :
    entry ∈ highest threshold read ↔
      entry ∈ read ∧ threshold ≤ entry.1 ∧ ∀ other ∈ read, other.1 ≤ entry.1 := by
  unfold highest
  split
  next none =>
    have empty := (best?_eq_none_iff _).1 none
    constructor
    · intro chosen
      cases chosen
    · rintro ⟨member, reaches, _⟩
      have chosen := (mem_atLeast threshold read entry).2 ⟨member, reaches⟩
      rw [empty] at chosen
      cases chosen
  next best found =>
    obtain ⟨⟨first, chosen, equal⟩, most⟩ := (best?_eq_some_iff _ best).1 found
    obtain ⟨known, reaches⟩ := (mem_atLeast threshold read first).1 chosen
    rw [List.mem_filter, mem_atLeast, decide_eq_true_eq]
    constructor
    · rintro ⟨⟨member, enough⟩, rfl⟩
      refine ⟨member, enough, ?_⟩
      intro other there
      rcases Int8.le_total threshold other.1 with above | below
      · exact most other ((mem_atLeast threshold read other).2 ⟨there, above⟩)
      · exact Int8.le_trans below enough
    · rintro ⟨member, enough, all⟩
      refine ⟨⟨member, enough⟩, Int8.le_antisymm ?_ ?_⟩
      · exact most entry ((mem_atLeast threshold read entry).2 ⟨member, enough⟩)
      · exact equal ▸ all first known

theorem Query.choose_sublist (q : Query) (read : List (Int8 × α)) :
    (q.choose read).Sublist read := by
  cases q with
  | highest threshold => exact (highest_sublist threshold read).trans List.filter_sublist
  | atLeast threshold => exact List.filter_sublist

theorem Query.choose_map (q : Query) (f : α → β) (read : List (Int8 × α)) :
    q.choose (read.map (Prod.map id f)) = (q.choose read).map (Prod.map id f) := by
  have enough (threshold : Int8) : Priority.atLeast threshold (read.map (Prod.map id f)) =
      (Priority.atLeast threshold read).map (Prod.map id f) := List.filter_map
  have best (chosen : List (Int8 × α)) : best? (chosen.map (Prod.map id f)) = best? chosen := by
    rw [best?, best?, List.map_map]
    rfl
  cases q with
  | atLeast threshold => exact enough threshold
  | highest threshold =>
    rw [choose, choose, Priority.highest, Priority.highest, enough, best]
    cases best? (Priority.atLeast threshold read) with
    | none => rfl
    | some most => exact List.filter_map

end StanzaDelivery.Priority
