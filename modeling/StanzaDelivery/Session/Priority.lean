/-! Choosing among sessions by priority. Priorities may change while they are read, so a
choice reads each of them once and then works with what it read. -/

namespace StanzaDelivery.Priority

variable {α : Type}

/-- Each candidate with the priority that reading it gave. -/
def readAll {m : Type → Type} [Monad m] (read : α → m Int8) (candidates : List α) :
    m (List (Int8 × α)) :=
  candidates.mapM fun candidate => do return (← read candidate, candidate)

/-- The candidates of priority `threshold` or more, in their order. -/
def atLeast (threshold : Int8) (read : List (Int8 × α)) : List (Int8 × α) :=
  read.filter fun entry => threshold ≤ entry.1

def best? (read : List (Int8 × α)) : Option Int8 := (read.map Prod.fst).max?

/-- The candidates that share the highest priority, if that is `threshold` or more. -/
def highest (threshold : Int8) (read : List (Int8 × α)) : List (Int8 × α) :=
  match best? (atLeast threshold read) with
  | none => []
  | some best => (atLeast threshold read).filter fun entry => entry.1 = best

def candidates (chosen : List (Int8 × α)) : List α := chosen.map Prod.snd

theorem mem_atLeast (threshold : Int8) (read : List (Int8 × α)) (entry : Int8 × α) :
    entry ∈ atLeast threshold read ↔ entry ∈ read ∧ threshold ≤ entry.1 := by
  simp [atLeast]

theorem highest_sublist (threshold : Int8) (read : List (Int8 × α)) :
    (highest threshold read).Sublist (atLeast threshold read) := by
  simp only [highest]
  split
  · exact List.nil_sublist _
  · exact List.filter_sublist

/-- A query over sessions: those of the highest priority, or all that reach a threshold. -/
inductive Query
  | highest (threshold : Int8)
  | atLeast (threshold : Int8)
  deriving DecidableEq, Repr

def Query.choose : Query → List (Int8 × α) → List (Int8 × α)
  | .highest threshold => Priority.highest threshold
  | .atLeast threshold => Priority.atLeast threshold

/-- Answers the query, reading each priority once. -/
def Query.run {m : Type → Type} [Monad m] (q : Query) (read : α → m Int8) (sessions : List α) :
    m (List α) := do
  return candidates (q.choose (← readAll read sessions))

end StanzaDelivery.Priority
