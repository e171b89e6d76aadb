import StanzaDelivery.Pool
import StanzaDelivery.Text.Quoted

/-! A pool as an inspection shows it. -/

namespace StanzaDelivery.Pool

def Stats.inspected (s : Stats) : String :=
  Text.record "PoolStats"
    [("workers", toString s.workers), ("core_workers", toString s.core),
      ("max_workers", toString s.max), ("busy", toString s.busy), ("queued", toString s.queued),
      ("completed", toString s.completed), ("rejected", toString s.rejected),
      ("keep_alive_secs", toString s.keepAliveSecs)]

def inspected {J : Type} (p : Pool J) : String :=
  Text.record "WorkerPool" [("stats", p.stats.inspected)]

end StanzaDelivery.Pool
