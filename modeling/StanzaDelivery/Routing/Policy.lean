/-! What a router is told about the server it works for. -/

namespace StanzaDelivery

structure RoutingPolicy where
  localDomain : String
  /-- Chat and normal messages to a bare address go to the highest-priority resources
  only, not to every resource of non-negative priority. -/
  highestOnly : Bool
  deriving DecidableEq, Repr

end StanzaDelivery
