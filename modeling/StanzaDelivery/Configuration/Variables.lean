import StanzaDelivery.Configuration

/-! The configuration as variables. An absent variable leaves the default; blanks around
a number or a switch do not count, and the domain is taken as it is written. -/

namespace StanzaDelivery.Configuration

namespace Variable

def localDomain : String := "WADDLE_RELAY_DOMAIN"

def highestOnly : String := "WADDLE_RELAY_HIGHEST_PRIORITY_ONLY"

def workers : String := "WADDLE_RELAY_WORKERS"

def keepAliveSecs : String := "WADDLE_RELAY_KEEP_ALIVE_SECS"

def queueCapacity : String := "WADDLE_RELAY_QUEUE_CAPACITY"

end Variable

def switchedOn : List String := ["1", "true", "yes", "on"]

def switchedOff : List String := ["0", "false", "no", "off", ""]

/-- The switch that a text sets, in capitals or not. No character outside ASCII has a
small form that occurs in these words, so folding ASCII capitals is enough. -/
def switch? (value : String) : Option Bool :=
  let word := String.ofList ((Text.trim value.toList).map Char.toLower)
  if word ∈ switchedOn then some true
  else if word ∈ switchedOff then some false
  else none

def word? (value : String) : Option UInt64 := Text.word? (Text.trim value.toList)

/-- The value of a variable: its default if it is absent, a fault if it is malformed. -/
def variableOr (key : String) (read? : String → Option α) (default : α) (value : Option String) :
    Except ConfigurationFault α :=
  match value with
  | none => .ok default
  | some raw =>
    match read? raw with
    | some value => .ok value
    | none => .error (.malformed key raw)

def checked (c : Configuration) : Except ConfigurationFault Configuration :=
  match c.check with
  | .ok () => .ok c
  | .error cause => .error (.unusable cause)

/-- The configuration that the variables spell. The first malformed variable is the
fault; only a configuration without one is checked. -/
def ofVariables (lookup : String → Option String) : Except ConfigurationFault Configuration := do
  let highestOnly ← variableOr Variable.highestOnly switch? false (lookup Variable.highestOnly)
  let workers ← variableOr Variable.workers word? default.workers (lookup Variable.workers)
  let keepAliveSecs ←
    variableOr Variable.keepAliveSecs word? default.keepAliveSecs (lookup Variable.keepAliveSecs)
  let queueCapacity ←
    variableOr Variable.queueCapacity word? default.queueCapacity (lookup Variable.queueCapacity)
  let localDomain := (lookup Variable.localDomain).getD default.localDomain
  checked ⟨localDomain, highestOnly, workers, keepAliveSecs, queueCapacity⟩

end StanzaDelivery.Configuration
