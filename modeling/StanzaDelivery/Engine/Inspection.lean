import StanzaDelivery.Engine
import StanzaDelivery.Pool.Inspection

/-! Sessions, registries, routers and engines as an inspection shows them. An address is
shown with the places, counted in bytes, at which its separators stand. -/

namespace StanzaDelivery

def inspectedFlag (flag : Bool) : String := if flag then "true" else "false"

def FullAddress.inspected (a : FullAddress) : String :=
  let nodeEnd := match a.bare.node with
    | none => "None"
    | some node => "Some(" ++ toString node.utf8ByteSize ++ ")"
  let bareEnd := "Some(" ++ toString a.bare.text.utf8ByteSize ++ ")"
  "FullJid(" ++
    Text.record "Jid" [("normalized", Text.quoted a.text), ("at", nodeEnd), ("slash", bareEnd)] ++
    ")"

def SessionState.inspected : SessionState → String
  | .initiated => "Initiated"
  | .encrypted => "Encrypted"
  | .authenticating => "Authenticating"
  | .authenticated => "Authenticated"
  | .ended => "Ended"
  | .closed => "Closed"

def Session.inspected (s : Session) : String :=
  Text.record "LocalSession"
    [("jid", s.address.inspected), ("state", s.state.inspected),
      ("priority", toString s.priority.toInt)]

def Registry.inspected (r : Registry) : String :=
  Text.record "ResourceRegistry" [("session_count", toString r.count)]

def RoutingPolicy.inspected (p : RoutingPolicy) : String :=
  Text.record "RouterConfig"
    [("local_domain", Text.quoted p.localDomain),
      ("deliver_to_highest_priority_only", inspectedFlag p.highestOnly)]

def Router.inspected (r : Router) : String :=
  Text.record "StanzaRouter"
    [("config", r.policy.inspected), ("offline_receiver", inspectedFlag r.keepsOffline),
      ("components", inspectedFlag r.knowsComponents)]

def Engine.inspected (e : Engine) : String :=
  Text.record "RelayEngine"
    [("router", e.router.inspected), ("running", inspectedFlag e.running),
      ("pool", e.pool.inspected)]

end StanzaDelivery
