import StanzaDelivery.Proofs.Session.Priority
import StanzaDelivery.Session.Flapping
import StanzaDelivery.Session.Registry

/-! Choices among sessions whose priorities may change whenever they are read. A query reads every
priority once, and what it finds is decided by what it read: each session has one value, and the
answer is the same as if the priorities had been these values and had not changed. -/

namespace StanzaDelivery.Priority

variable {α σ : Type}

def noting (read : α → StateM σ Int8) : α → StateM (σ × List (α × Int8)) Int8 :=
  fun candidate known =>
    ((read candidate known.1).1, (read candidate known.1).2,
      known.2 ++ [(candidate, (read candidate known.1).1)])

theorem readAll_nil (read : α → StateM σ Int8) (s : σ) : readAll read [] s = ([], s) := rfl

theorem readAll_cons (read : α → StateM σ Int8) (first : α) (rest : List α) (s : σ) :
    readAll read (first :: rest) s =
      (((read first s).1, first) :: (readAll read rest (read first s).2).1,
        (readAll read rest (read first s).2).2) := by
  simp only [readAll, List.mapM_cons]
  rfl

theorem readAll_distinct (read : α → StateM σ Int8) {candidates : List α}
    (distinct : candidates.Nodup) (s : σ) :
    ∃ (value : α → Int8) (after : σ),
      readAll read candidates s = (candidates.map fun x => (value x, x), after) ∧
      (∀ readings, readAll (noting read) candidates (s, readings) =
        (candidates.map fun x => (value x, x), after,
          readings ++ candidates.map fun x => (x, value x))) ∧
      ∀ x ∈ candidates, ∃ t, (read x t).1 = value x := by
  classical
  induction candidates generalizing s with
  | nil => exact ⟨fun _ => 0, s, readAll_nil read s, by simp [readAll_nil], nofun⟩
  | cons first rest ih =>
    obtain ⟨other, distinct⟩ := List.nodup_cons.1 distinct
    obtain ⟨value, after, plain, written, origin⟩ := ih distinct (read first s).2
    let known (x : α) : Int8 := if x = first then (read first s).1 else value x
    have here : known first = (read first s).1 := if_pos rfl
    have there : ∀ x ∈ rest, known x = value x := by
      rintro x member
      apply if_neg
      rintro rfl
      exact other member
    have pairs : (rest.map fun x => (known x, x)) = rest.map fun x => (value x, x) :=
      List.map_congr_left fun x member => by rw [there x member]
    have notes : (rest.map fun x => (x, known x)) = rest.map fun x => (x, value x) :=
      List.map_congr_left fun x member => by rw [there x member]
    refine ⟨known, after, ?_, ?_, ?_⟩
    · rw [readAll_cons, plain, List.map_cons, here, pairs]
    · intro readings
      rw [readAll_cons, noting, written, List.map_cons, List.map_cons, here, pairs, notes,
        List.append_assoc, List.singleton_append]
    · intro x member
      rcases List.mem_cons.1 member with rfl | member
      · exact ⟨s, here.symm⟩
      · rw [there x member]
        exact origin x member

theorem highest_eq_filter (threshold : Int8) (read : List (Int8 × α)) :
    highest threshold read = read.filter fun entry =>
      threshold ≤ entry.1 ∧ ∀ other ∈ read, threshold ≤ other.1 → other.1 ≤ entry.1 := by
  unfold highest
  split
  next none =>
    have nobody := (best?_eq_none_iff _).1 none
    symm
    rw [List.filter_eq_nil_iff]
    intro entry member chosen
    have reaches := (mem_atLeast threshold read entry).2 ⟨member, (of_decide_eq_true chosen).1⟩
    rw [nobody] at reaches
    cases reaches
  next best found =>
    obtain ⟨⟨first, chosen, equal⟩, most⟩ := (best?_eq_some_iff _ best).1 found
    obtain ⟨known, reaches⟩ := (mem_atLeast threshold read first).1 chosen
    rw [atLeast, List.filter_filter]
    apply List.filter_congr
    intro entry member
    rw [← Bool.decide_and, decide_eq_decide]
    constructor
    · rintro ⟨rfl, enough⟩
      exact ⟨enough, fun other there above =>
        most other ((mem_atLeast threshold read other).2 ⟨there, above⟩)⟩
    · rintro ⟨enough, all⟩
      refine ⟨Int8.le_antisymm ?_ (equal ▸ all first known reaches), enough⟩
      exact most entry ((mem_atLeast threshold read entry).2 ⟨member, enough⟩)

theorem highest_eq_nil_iff (threshold : Int8) (read : List (Int8 × α)) :
    highest threshold read = [] ↔ atLeast threshold read = [] := by
  constructor
  · intro nobody
    unfold highest at nobody
    split at nobody
    next none => exact (best?_eq_none_iff _).1 none
    next best found =>
      obtain ⟨⟨first, chosen, equal⟩, _⟩ := (best?_eq_some_iff _ best).1 found
      exact absurd (decide_eq_true equal) (List.filter_eq_nil_iff.1 nobody first chosen)
  · intro nobody
    have none : best? (atLeast threshold read) = none := (best?_eq_none_iff _).2 nobody
    rw [highest, none]

theorem run_eq (q : Query) (read : α → StateM σ Int8) (sessions : List α) (s : σ) :
    q.run read sessions s =
      (candidates (q.choose (readAll read sessions s).1), (readAll read sessions s).2) := rfl

theorem candidates_choose_highest (threshold : Int8) (value : α → Int8) (sessions : List α) :
    candidates ((Query.highest threshold).choose (sessions.map fun x => (value x, x))) =
      sessions.filter fun x => threshold ≤ value x ∧
        ∀ other ∈ sessions, threshold ≤ value other → value other ≤ value x := by
  rw [Query.choose, highest_eq_filter, candidates, List.filter_map, List.map_map]
  simp [Function.comp_def]

theorem candidates_choose_atLeast (threshold : Int8) (value : α → Int8) (sessions : List α) :
    candidates ((Query.atLeast threshold).choose (sessions.map fun x => (value x, x))) =
      sessions.filter fun x => threshold ≤ value x := by
  rw [Query.choose, atLeast, candidates, List.filter_map, List.map_map]
  simp [Function.comp_def]

theorem candidates_choose_sublist (threshold : Int8) (read : List (Int8 × α)) :
    (candidates ((Query.highest threshold).choose read)).Sublist
      (candidates ((Query.atLeast threshold).choose read)) :=
  (highest_sublist threshold read).map Prod.snd

theorem candidates_choose_eq_nil_iff (threshold : Int8) (read : List (Int8 × α)) :
    candidates ((Query.highest threshold).choose read) = [] ↔
      candidates ((Query.atLeast threshold).choose read) = [] := by
  rw [candidates, candidates, List.map_eq_nil_iff, List.map_eq_nil_iff]
  exact highest_eq_nil_iff threshold read

/-- However priorities change while they are read, a query reads the priority of every session once,
in the order of the sessions, and finds exactly those whose value meets the threshold and, if the
highest are asked for, is the greatest of the values that meet it; it finds them in their order.
So it finds nobody only if no value meets the threshold. If priorities hold still, the highest are
among those that meet the threshold, these are among all sessions, and there are some of the ones if
there are some of the others; so it is for a registry, which reads the priorities as they are. -/
theorem queries_follow_readings (read : α → StateM σ Int8) {sessions : List α}
    (distinct : sessions.Nodup) (threshold : Int8) (s : σ) :
    (∃ (value : α → Int8) (after : σ),
      (∀ q : Query, q.run (noting read) sessions (s, []) =
        ((q.run read sessions s).1, after, sessions.map fun x => (x, value x))) ∧
      (Query.highest threshold).run read sessions s =
        (sessions.filter fun x => threshold ≤ value x ∧
          ∀ other ∈ sessions, threshold ≤ value other → value other ≤ value x, after) ∧
      (Query.atLeast threshold).run read sessions s =
        (sessions.filter fun x => threshold ≤ value x, after) ∧
      (((Query.highest threshold).run read sessions s).1 = [] ↔
        ∀ x ∈ sessions, ¬threshold ≤ value x)) ∧
    (∀ priority : α → Int8, (∀ x ∈ sessions, ∀ t, (read x t).1 = priority x) → ∀ t,
      ((Query.highest threshold).run read sessions s).1.Sublist
        ((Query.atLeast threshold).run read sessions t).1 ∧
      ((Query.atLeast threshold).run read sessions t).1.Sublist sessions ∧
      (((Query.highest threshold).run read sessions s).1 = [] ↔
        ((Query.atLeast threshold).run read sessions t).1 = [])) ∧
    ∀ (r : Registry) (address : Address),
      (r.query (.highest threshold) address).Sublist (r.query (.atLeast threshold) address) ∧
      (r.query (.atLeast threshold) address).Sublist (r.sessionsFor address) ∧
      (r.query (.highest threshold) address = [] ↔ r.query (.atLeast threshold) address = []) := by
  refine ⟨?_, ?_, ?_⟩
  · obtain ⟨value, after, plain, written, _⟩ := readAll_distinct read distinct s
    refine ⟨value, after, ?_, ?_, ?_, ?_⟩
    · intro q
      rw [run_eq, run_eq, plain, written, List.nil_append]
    · rw [run_eq, plain, candidates_choose_highest]
    · rw [run_eq, plain, candidates_choose_atLeast]
    · rw [run_eq, plain, candidates_choose_eq_nil_iff, candidates_choose_atLeast,
        List.filter_eq_nil_iff]
      simp only [decide_eq_true_eq]
  · intro priority still t
    have values (s : σ) : (readAll read sessions s).1 = sessions.map fun x => (priority x, x) := by
      obtain ⟨value, after, plain, _, origin⟩ := readAll_distinct read distinct s
      rw [plain]
      apply List.map_congr_left
      intro x member
      obtain ⟨t, known⟩ := origin x member
      rw [← known, still x member t]
    simp only [run_eq, values]
    refine ⟨candidates_choose_sublist threshold _, ?_, candidates_choose_eq_nil_iff threshold _⟩
    rw [candidates_choose_atLeast]
    exact List.filter_sublist
  · intro r address
    simp only [Registry.query_eq]
    refine ⟨candidates_choose_sublist threshold _, ?_, candidates_choose_eq_nil_iff threshold _⟩
    rw [candidates_choose_atLeast]
    exact List.filter_sublist

theorem queries_follow_readings_around_the_end :
    ∃ (sessions between : List Flapping.Session) (value : Nat → Int8), (List.range 3).Nodup ∧
      (Query.highest 0).run (noting Flapping.readAt) (List.range 3) (sessions, []) =
        ([0], between, (List.range 3).map fun x => (x, value x)) ∧
      value 0 = 127 ∧ between.map (·.priority) = [-128, 3, 2] ∧
      ((Query.highest 0).run Flapping.readAt (List.range 3) between).1 = [1] := by
  -- The highest priority of three wraps around to the lowest when it is read. The query finds that
  -- session all the same; the next one reads what is left behind, and finds another.
  let account : BareAddress := ⟨some "alice", "waddle.social"⟩
  let sessions : List Flapping.Session :=
    [⟨⟨account, "phone"⟩, 127, 1⟩, ⟨⟨account, "desk"⟩, 5, -2⟩, ⟨⟨account, "tablet"⟩, -1, 3⟩]
  let between : List Flapping.Session :=
    [⟨⟨account, "phone"⟩, -128, 1⟩, ⟨⟨account, "desk"⟩, 3, -2⟩, ⟨⟨account, "tablet"⟩, 2, 3⟩]
  have distinct : (List.range 3).Nodup := List.nodup_range
  have shown : (show List Nat × List Flapping.Session × List (Nat × Int8) from
      (Query.highest 0).run (noting Flapping.readAt) (List.range 3) (sessions, [])) =
        ([0], between, [(0, 127), (1, 5), (2, -1)]) := by decide
  obtain ⟨⟨value, after, written, _⟩, _⟩ :=
    queries_follow_readings Flapping.readAt distinct 0 sessions
  have same := (written (.highest 0)).symm.trans shown
  have log : ((List.range 3).map fun x => (x, value x)) = [(0, 127), (1, 5), (2, -1)] :=
    congrArg (fun result => result.2.2) same
  refine ⟨sessions, between, value, distinct, shown.trans (by rw [log]), ?_, by decide, by decide⟩
  have first := congrArg (fun notes => (notes.head?).map Prod.snd) log
  simpa [List.range_succ] using first

end StanzaDelivery.Priority
