/-! Why a configuration cannot be used. -/

namespace StanzaDelivery

/-- What is wrong with a configuration whose values could all be read. -/
inductive Unusable
  | blankDomain
  | noCoreWorkers
  | maxBelowCore (max core : UInt64)
  | noQueue
  deriving DecidableEq, Repr

def Unusable.reason : Unusable → String
  | .blankDomain => "local_domain must not be empty"
  | .noCoreWorkers => "core_workers must be at least 1"
  | .maxBelowCore max core =>
    "max_workers (" ++ toString max.toNat ++ ") must not be below core_workers (" ++
      toString core.toNat ++ ")"
  | .noQueue => "queue_capacity must be at least 1"

inductive ConfigurationFault
  | malformed (key value : String)
  | unusable (cause : Unusable)
  | noScheduler
  deriving DecidableEq, Repr

def ConfigurationFault.message : ConfigurationFault → String
  | .malformed key value => "Invalid value for " ++ key ++ ": " ++ value
  | .unusable cause => "Invalid configuration: " ++ cause.reason
  | .noScheduler => "No scheduler is running"

end StanzaDelivery
