import StanzaDelivery.Pool.Settings
import StanzaDelivery.Routing.Policy
import StanzaDelivery.Text.Blank

/-! The configuration of stanza delivery, and the router and pool that it asks for. -/

namespace StanzaDelivery

structure Configuration where
  localDomain : String
  highestOnly : Bool
  workers : UInt64
  keepAliveSecs : UInt64
  queueCapacity : UInt64
  deriving DecidableEq, Repr

namespace Configuration

def default : Configuration := ⟨"localhost", false, 18, 120, 1024⟩

def routingPolicy (c : Configuration) : RoutingPolicy := ⟨c.localDomain, c.highestOnly⟩

def poolSettings (c : Configuration) : Pool.Settings :=
  ((Pool.Settings.default.withMaxWorkers c.workers).withKeepAliveSecs
    c.keepAliveSecs).withQueueCapacity c.queueCapacity

def check (c : Configuration) : Except Unusable Unit :=
  if Text.trim c.localDomain.toList = [] then .error .blankDomain else c.poolSettings.check

/-- What an operator is told about the configuration, line by line. -/
def description (c : Configuration) : List String :=
  ["Relay domain: " ++ c.localDomain,
    "Relay workers: " ++ toString c.workers.toNat ++ " core, " ++
      toString (Text.doubled c.workers).toNat ++ " max",
    "Relay worker keep-alive: " ++ toString c.keepAliveSecs.toNat ++ "s",
    "Relay queue capacity: " ++ toString c.queueCapacity.toNat,
    if c.highestOnly then "Bare JID messages: highest-priority resources only"
    else "Bare JID messages: all non-negative priority resources"]

end Configuration
end StanzaDelivery
