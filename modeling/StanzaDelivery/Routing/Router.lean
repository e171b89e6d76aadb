import StanzaDelivery.Routing.Aim
import StanzaDelivery.Routing.Handover
import StanzaDelivery.Routing.Site

/-! Routers. A router carries out the aim of a stanza on its site and reports what came
of it; a stanza that aims nowhere leaves no report, and the crash of a component is not
held up here. -/

namespace StanzaDelivery

structure Router where
  policy : RoutingPolicy
  /-- Stanzas for offline accounts are kept in the pending store. -/
  keepsOffline : Bool
  /-- Stanzas for other domains may go to components. -/
  knowsComponents : Bool
  deriving DecidableEq, Repr

inductive Resolution
  | discarded
  | reported (report : Report)
  | crashed
  deriving DecidableEq, Repr

namespace Router

open Routing Handover

def noComponents : Fault := .serviceUnavailable "no component resolver configured"

def noComponentFor (domain : String) : Fault :=
  .serviceUnavailable ("no component processor for " ++ domain)

/-- What is left to do for an account without an eligible session. -/
def handleOffline (r : Router) (account : BareAddress) (stanza : Stanza) (site : Site) :
    Report × Site :=
  match site.accounts.verify account with
  | .error fault => (.failed (.causedByStorage "account verification failed" fault), site)
  | .ok false => (.failed .noSuchUser, site)
  | .ok true =>
    if r.keepsOffline then
      let (kept, pending) := site.pending.receive stanza
      let site := { site with pending := pending }
      match kept with
      | .ok () => (.failed .storedOffline, site)
      | .error fault => (.failed (.causedByStorage "offline receiver rejected stanza" fault), site)
    else (.failed .recipientOffline, site)

def handToComponent (r : Router) (domain : String) (stanza : Stanza) (site : Site) :
    Resolution × Site :=
  if r.knowsComponents then
    match site.components.component? domain with
    | none => (.reported (.failed (noComponentFor domain)), site)
    | some component =>
      let (answer, components) := site.components.hand domain component stanza
      let site := { site with components := components }
      match answer with
      | .taken => (.reported (.attempted []), site)
      | .refused fault => (.reported (.failed fault), site)
      | .crashed => (.crashed, site)
  else (.reported (.failed noComponents), site)

/-- Attempts sessions that were looked at before; the stanza then counts as processed. -/
def handToSessions (deliver : Deliverer) (targets : List Target) (stanza : Stanza) (site : Site) :
    Report × Site :=
  let (faults, registry) := attemptAll deliver stanza targets site.registry
  (.attempted faults, { site with registry := registry })

def targets (site : Site) (ids : List SessionId) : List Target := ids.map (targetOf site.registry)

def carryOut (r : Router) (deliver : Deliverer) (aim : Aim) (address : Address) (stanza : Stanza)
    (site : Site) : Resolution × Site :=
  match aim with
  | .nowhere => (.discarded, site)
  | .refused fault => (.reported (.failed fault), site)
  | .component domain => r.handToComponent domain stanza site
  | .nobody =>
    let (report, site) := r.handleOffline address.bare stanza site
    (.reported report, site)
  | .sessions ids =>
    let (report, site) := handToSessions deliver (targets site ids) stanza site
    (.reported report, site)

/-- Finds the aim of the stanza and carries it out. -/
def resolve (r : Router) (deliver : Deliverer) (address : Address) (stanza : Stanza) (site : Site) :
    Resolution × Site :=
  r.carryOut deliver (r.policy.aim site.registry address stanza) address stanza site

end Router
end StanzaDelivery
