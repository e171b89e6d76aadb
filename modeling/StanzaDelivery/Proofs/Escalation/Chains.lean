import StanzaDelivery.Escalation

/-! Chains of chains. What is done about a failed delivery is a tree: its leaves are strategies of
any kind, and a chain tries its parts in turn. How the leaves are chained does not matter: to try
the tree is to try its leaves from left to right, up to the first that ends badly. -/

namespace StanzaDelivery.Escalation

variable {ρ σ : Type}

/-- Tries each of these; the first that does not end well is the last. -/
def inTurn (attempt : ρ → σ → Ending × σ) : List ρ → σ → Ending × σ
  | [], s => (.done, s)
  | first :: rest, s =>
    match attempt first s with
    | (.done, after) => inTurn attempt rest after
    | bad => bad

inductive Passed (attempt : ρ → σ → Ending × σ) : List ρ → σ → σ → Prop
  | nil (s : σ) : Passed attempt [] s s
  | cons {first : ρ} {rest : List ρ} {s between after : σ}
      (well : attempt first s = (.done, between)) (others : Passed attempt rest between after) :
      Passed attempt (first :: rest) s after

/-- How it goes to try these in turn: all end well and all are tried, or there is a first that ends
badly, which is the last that is tried. -/
def Course (attempt : ρ → σ → Ending × σ) (list : List ρ) (s : σ) (tried : List ρ)
    (ending : Ending) (after : σ) : Prop :=
  (Passed attempt list s after ∧ ending = .done ∧ tried = list) ∨
    ∃ before last rest between, list = before ++ last :: rest ∧
      Passed attempt before s between ∧ attempt last between = (ending, after) ∧
      ending ≠ .done ∧ tried = before ++ [last]

def noted {κ : Type} (note : ρ → κ) (attempt : ρ → σ → Ending × σ) :
    ρ → σ × List κ → Ending × σ × List κ := fun tried (s, notes) =>
  let (ending, after) := attempt tried s
  (ending, after, notes ++ [note tried])

section Turns

variable {attempt : ρ → σ → Ending × σ} {list tried : List ρ} {s after : σ} {ending : Ending}

theorem inTurn_append (attempt : ρ → σ → Ending × σ) (first second : List ρ) (s : σ) :
    inTurn attempt (first ++ second) s =
      match inTurn attempt first s with
      | (.done, after) => inTurn attempt second after
      | bad => bad := by
  induction first generalizing s with
  | nil => rfl
  | cons one rest ih =>
    simp only [List.cons_append, inTurn]
    rcases attempt one s with ⟨ending, after⟩
    cases ending with
    | done => exact ih after
    | fault cause => rfl
    | crashed => rfl

theorem inTurn_singleton (attempt : ρ → σ → Ending × σ) (one : ρ) (s : σ) :
    inTurn attempt [one] s = attempt one s := by
  rw [inTurn]
  rcases attempt one s with ⟨ending, after⟩
  cases ending <;> rfl

theorem inTurn_congr {other : ρ → σ → Ending × σ} (same : ∀ one ∈ list, attempt one = other one)
    (s : σ) : inTurn attempt list s = inTurn other list s := by
  induction list generalizing s with
  | nil => rfl
  | cons one rest ih =>
    obtain ⟨first, others⟩ := List.forall_mem_cons.1 same
    simp only [inTurn, first, ih others]

theorem Course.onward {first : ρ} {between : σ} (well : attempt first s = (.done, between))
    (course : Course attempt list between tried ending after) :
    Course attempt (first :: list) s (first :: tried) ending after := by
  rcases course with ⟨passed, done, all⟩ | ⟨before, last, rest, later, split, passed, badly, bad,
    some⟩
  · exact .inl ⟨.cons well passed, done, congrArg (first :: ·) all⟩
  · exact .inr ⟨first :: before, last, rest, later, congrArg (first :: ·) split,
      .cons well passed, badly, bad, congrArg (first :: ·) some⟩

theorem Course.stopped {first : ρ} (badly : attempt first s = (ending, after))
    (bad : ending ≠ .done) : Course attempt (first :: list) s [first] ending after :=
  .inr ⟨[], first, list, s, rfl, .nil s, badly, bad, rfl⟩

theorem course_inTurn {κ : Type} (note : ρ → κ) (attempt : ρ → σ → Ending × σ) (list : List ρ)
    (s : σ) (notes : List κ) :
    ∃ tried ending after, inTurn attempt list s = (ending, after) ∧
      inTurn (noted note attempt) list (s, notes) = (ending, after, notes ++ tried.map note) ∧
      Course attempt list s tried ending after := by
  induction list generalizing s notes with
  | nil => exact ⟨[], .done, s, rfl, by simp [inTurn], .inl ⟨.nil s, rfl, rfl⟩⟩
  | cons first rest ih =>
    rcases known : attempt first s with ⟨ending, between⟩
    cases ending with
    | done =>
      obtain ⟨tried, ending, after, plain, written, course⟩ := ih between (notes ++ [note first])
      refine ⟨first :: tried, ending, after, ?_, ?_, course.onward known⟩
      · simp only [inTurn, known, plain]
      · simp only [inTurn, noted, known]
        exact written.trans (by simp)
    | fault cause =>
      refine ⟨[first], .fault cause, between, ?_, ?_, .stopped known nofun⟩
      · simp only [inTurn, known]
      · simp only [inTurn, noted, known, List.map_singleton]
    | crashed =>
      refine ⟨[first], .crashed, between, ?_, ?_, .stopped known nofun⟩
      · simp only [inTurn, known]
      · simp only [inTurn, noted, known, List.map_singleton]

theorem Passed.inTurn_eq (passed : Passed attempt list s after) :
    inTurn attempt list s = (.done, after) := by
  induction passed with
  | nil s => rfl
  | cons well _ ih => simp only [inTurn, well, ih]

theorem inTurn_done_iff (attempt : ρ → σ → Ending × σ) (list : List ρ) (s : σ) :
    (inTurn attempt list s).1 = .done ↔ ∃ after, Passed attempt list s after := by
  constructor
  · obtain ⟨tried, ending, after, known, _, course⟩ := course_inTurn id attempt list s []
    rw [known]
    rintro rfl
    rcases course with ⟨passed, _⟩ | ⟨_, _, _, _, _, _, _, bad, _⟩
    · exact ⟨after, passed⟩
    · exact absurd rfl bad
  · rintro ⟨after, passed⟩
    rw [passed.inTurn_eq]

end Turns

/-- A strategy, or a chain of which each part is a strategy or a chain again. -/
inductive Plan (ρ : Type)
  | leaf (strategy : ρ)
  | chain (parts : List (Plan ρ))

abbrev Conduct (ρ σ : Type) := Stanza → List Fault → ρ → σ → Ending × σ

def Conduct.noting (conduct : Conduct ρ σ) : Conduct ρ (σ × List (ρ × Stanza × List Fault)) :=
  fun stanza faults => noted (fun leaf => (leaf, stanza, faults)) (conduct stanza faults)

namespace Plan

mutual

def leaves : Plan ρ → List ρ
  | .leaf strategy => [strategy]
  | .chain parts => leavesOfAll parts

def leavesOfAll : List (Plan ρ) → List ρ
  | [] => []
  | part :: rest => leaves part ++ leavesOfAll rest

end

mutual

def process (conduct : Conduct ρ σ) (stanza : Stanza) (faults : List Fault) :
    Plan ρ → σ → Ending × σ
  | .leaf strategy, s => conduct stanza faults strategy s
  | .chain parts, s => processEach conduct stanza faults parts s

def processEach (conduct : Conduct ρ σ) (stanza : Stanza) (faults : List Fault) :
    List (Plan ρ) → σ → Ending × σ
  | [], s => (.done, s)
  | part :: rest, s =>
    match process conduct stanza faults part s with
    | (.done, after) => processEach conduct stanza faults rest after
    | bad => bad

end

section Flattening

variable (conduct : Conduct ρ σ) (stanza : Stanza) (faults : List Fault)

mutual

theorem process_eq_inTurn (s : σ) : (plan : Plan ρ) →
    plan.process conduct stanza faults s = inTurn (conduct stanza faults) plan.leaves s
  | .leaf strategy => by rw [process, leaves, inTurn_singleton]
  | .chain parts => by rw [process, leaves, processEach_eq_inTurn s parts]

theorem processEach_eq_inTurn (s : σ) : (parts : List (Plan ρ)) →
    processEach conduct stanza faults parts s =
      inTurn (conduct stanza faults) (leavesOfAll parts) s
  | [] => rfl
  | part :: rest => by
    rw [processEach, leavesOfAll, inTurn_append, process_eq_inTurn s part]
    rcases inTurn (conduct stanza faults) part.leaves s with ⟨ending, after⟩
    cases ending with
    | done => exact processEach_eq_inTurn after rest
    | fault cause => rfl
    | crashed => rfl

end

theorem process_congr {plan other : Plan ρ} (same : plan.leaves = other.leaves) (s : σ) :
    plan.process conduct stanza faults s = other.process conduct stanza faults s := by
  rw [process_eq_inTurn, process_eq_inTurn, same]

end Flattening

def nothing : Plan ρ := .chain []

def andThen (first second : Plan ρ) : Plan ρ := .chain [first, second]

@[simp] theorem leaves_nothing : (nothing : Plan ρ).leaves = [] := rfl

@[simp] theorem leaves_andThen (first second : Plan ρ) :
    (first.andThen second).leaves = first.leaves ++ second.leaves := by
  simp [andThen, leaves, leavesOfAll]

end Plan

mutual

def plan : Escalation → Plan Remedy
  | .single remedy => .leaf remedy
  | .chain parts => .chain (plans parts)

def plans : List Escalation → List (Plan Remedy)
  | [] => []
  | part :: rest => plan part :: plans rest

end

mutual

theorem leaves_plan : (e : Escalation) → e.plan.leaves = e.remedies
  | .single _ => rfl
  | .chain parts => leavesOfAll_plans parts

theorem leavesOfAll_plans : (parts : List Escalation) →
    Plan.leavesOfAll (plans parts) = remediesOfAll parts
  | [] => rfl
  | part :: rest => by
    rw [plans, Plan.leavesOfAll, remediesOfAll, leaves_plan part, leavesOfAll_plans rest]

end

section Remedies

variable (f : Facilities σ) (stanza : Stanza) (faults : List Fault)

mutual

theorem tryAll_eq_process (s : σ) : (e : Escalation) →
    tryAll f stanza faults e s = e.plan.process (tryRemedy f) stanza faults s
  | .single _ => rfl
  | .chain parts => tryEach_eq_processEach s parts

theorem tryEach_eq_processEach (s : σ) : (parts : List Escalation) →
    tryEach f stanza faults parts s =
      Plan.processEach (tryRemedy f) stanza faults (plans parts) s
  | [] => rfl
  | part :: rest => by
    rw [tryEach, plans, Plan.processEach, tryAll_eq_process s part]
    rcases part.plan.process (tryRemedy f) stanza faults s with ⟨ending, after⟩
    cases ending with
    | done => exact tryEach_eq_processEach after rest
    | fault cause => rfl
    | crashed => rfl

end

theorem tryAll_eq_inTurn (e : Escalation) (s : σ) :
    tryAll f stanza faults e s = inTurn (tryRemedy f stanza faults) e.remedies s := by
  rw [tryAll_eq_process, Plan.process_eq_inTurn, leaves_plan]

end Remedies

/-- A tree of strategies does what its leaves do one after the other, each called with the same
stanza and faults, up to the first that ends with a fault or a crash: that is how the tree ends, no
leaf after it is called anywhere in the tree, and what was done before it stays done. The tree ends
well if all leaves do. So trees of the same leaves do the same: chaining is associative, and an
empty chain is nothing. Escalations are such trees. -/
theorem chains_flatten (conduct : Conduct ρ σ) (plan : Plan ρ) (stanza : Stanza)
    (faults : List Fault) (s : σ) :
    (∃ tried ending after,
      plan.process conduct stanza faults s = (ending, after) ∧
      plan.process conduct.noting stanza faults (s, []) =
        (ending, after, tried.map fun leaf => (leaf, stanza, faults)) ∧
      Course (conduct stanza faults) plan.leaves s tried ending after) ∧
    ((plan.process conduct stanza faults s).1 = .done ↔
      ∃ after, Passed (conduct stanza faults) plan.leaves s after) ∧
    (∀ other : Plan ρ, other.leaves = plan.leaves →
      other.process conduct stanza faults s = plan.process conduct stanza faults s) ∧
    (∀ second third : Plan ρ,
      ((plan.andThen second).andThen third).process conduct stanza faults s =
        (plan.andThen (second.andThen third)).process conduct stanza faults s) ∧
    (Plan.nothing.andThen plan).process conduct stanza faults s =
      plan.process conduct stanza faults s ∧
    (plan.andThen .nothing).process conduct stanza faults s =
      plan.process conduct stanza faults s ∧
    ∀ (f : Facilities σ) (e : Escalation), e.plan.leaves = e.remedies ∧
      e.tryAll f stanza faults s = e.plan.process (tryRemedy f) stanza faults s := by
  refine ⟨?_, ?_, ?_, ?_, ?_, ?_, ?_⟩
  · obtain ⟨tried, ending, after, plain, written, course⟩ :=
      course_inTurn (fun leaf => (leaf, stanza, faults)) (conduct stanza faults) plan.leaves s []
    rw [Plan.process_eq_inTurn, Plan.process_eq_inTurn]
    exact ⟨tried, ending, after, plain, written, course⟩
  · rw [Plan.process_eq_inTurn]
    exact inTurn_done_iff (conduct stanza faults) plan.leaves s
  · intro other same
    exact Plan.process_congr conduct stanza faults same s
  · intro second third
    apply Plan.process_congr
    simp only [Plan.leaves_andThen, List.append_assoc]
  · apply Plan.process_congr
    simp
  · apply Plan.process_congr
    simp
  · intro f e
    exact ⟨leaves_plan e, tryAll_eq_process f stanza faults s e⟩

end StanzaDelivery.Escalation
