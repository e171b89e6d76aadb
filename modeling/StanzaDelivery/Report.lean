import StanzaDelivery.Fault

/-! The report on one delivery: whether any session was attempted, and the faults in
the order in which they arose. -/

namespace StanzaDelivery

inductive Verdict
  | success
  | partialSuccess
  | failure
  deriving DecidableEq, Repr

def Verdict.name : Verdict → String
  | .success => "success"
  | .partialSuccess => "partial"
  | .failure => "failure"

structure Report where
  processed : Bool
  faults : List Fault
  deriving DecidableEq, Repr

namespace Report

def empty : Report := ⟨false, []⟩

/-- Nothing was attempted, for this one reason. -/
def failed (fault : Fault) : Report := ⟨false, [fault]⟩

/-- Sessions were attempted, with these faults. -/
def attempted (faults : List Fault) : Report := ⟨true, faults⟩

def markProcessed (r : Report) : Report := { r with processed := true }

def addFault (r : Report) (fault : Fault) : Report := { r with faults := r.faults ++ [fault] }

def hasFaults (r : Report) : Bool := !r.faults.isEmpty

def kinds (r : Report) : List FaultKind := r.faults.map Fault.kind

def contains (r : Report) (kind : FaultKind) : Bool := r.kinds.contains kind

def verdict (r : Report) : Verdict :=
  if r.faults.isEmpty then .success
  else if r.processed then .partialSuccess
  else .failure

theorem verdict_eq_failure_iff (r : Report) :
    r.verdict = .failure ↔ r.processed = false ∧ r.faults ≠ [] := by
  cases r with
  | mk processed faults => cases processed <;> cases faults <;> simp [verdict]

end Report
end StanzaDelivery
