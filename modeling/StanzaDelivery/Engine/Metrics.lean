import StanzaDelivery.Report
import StanzaDelivery.Stanza

/-! What an engine counts, and the readings that a collector gets. A count that is still
zero, or a gauge that was never set, gives no reading. -/

namespace StanzaDelivery

structure Metrics where
  submitted : Stanza.Kind → Nat
  rejected : Nat
  faults : FaultKind → Nat
  /-- Workers running a job when the number last changed. -/
  busy : Option Nat
  /-- Latencies recorded, by kind of stanza and verdict; no verdict for a stanza that
  left no report. -/
  latencies : Stanza.Kind → Option Verdict → Nat

namespace Metrics

def zero : Metrics := ⟨fun _ => 0, 0, fun _ => 0, none, fun _ _ => 0⟩

def countSubmitted (m : Metrics) (kind : Stanza.Kind) : Metrics :=
  { m with submitted := fun k => if k = kind then m.submitted k + 1 else m.submitted k }

def countRejected (m : Metrics) : Metrics := { m with rejected := m.rejected + 1 }

def countFault (m : Metrics) (kind : FaultKind) : Metrics :=
  { m with faults := fun k => if k = kind then m.faults k + 1 else m.faults k }

def setBusy (m : Metrics) (busy : Nat) : Metrics := { m with busy := some busy }

def countLatency (m : Metrics) (kind : Stanza.Kind) (verdict : Option Verdict) : Metrics :=
  { m with latencies := fun k v =>
      if k = kind ∧ v = verdict then m.latencies k v + 1 else m.latencies k v }

def countFaults (m : Metrics) (faults : List Fault) : Metrics :=
  faults.foldl (fun m fault => m.countFault fault.kind) m

def verdicts : List (Option Verdict) :=
  [some .success, some .partialSuccess, some .failure, none]

def verdictName : Option Verdict → String
  | some verdict => verdict.name
  | none => "dropped"

/-- The name of a series with its labels. -/
def series (name : String) (labels : List (String × String)) : String :=
  name ++ "\x7b" ++ ",".intercalate (labels.map fun label => label.1 ++ "=" ++ label.2) ++ "\x7d"

def counter (name : String) (labels : List (String × String)) (count : Nat) :
    List (String × Nat) :=
  if count = 0 then [] else [(series name labels, count)]

def readings (m : Metrics) : List (String × Nat) :=
  (Stanza.Kind.all.flatMap fun kind =>
    counter "xmpp.relay.submitted" [("type", kind.name)] (m.submitted kind)) ++
  counter "xmpp.relay.rejected" [] m.rejected ++
  (FaultKind.all.flatMap fun kind =>
    counter "xmpp.relay.delivery.errors" [("kind", kind.name)] (m.faults kind)) ++
  (m.busy.map fun busy => (series "xmpp.relay.workers.busy" [], busy)).toList ++
  Stanza.Kind.all.flatMap fun kind => verdicts.flatMap fun verdict =>
    counter "xmpp.relay.latency" [("outcome", verdictName verdict), ("type", kind.name)]
      (m.latencies kind verdict)

end Metrics
end StanzaDelivery
