import StanzaDelivery.Configuration
import StanzaDelivery.Json.Reader
import StanzaDelivery.Json.Writer

/-! The configuration as a JSON document: an object that names some of the five fields,
each once, in any order and among any others, or an array that gives the first few. -/

namespace StanzaDelivery.Configuration

inductive Field
  | localDomain
  | highestOnly
  | workers
  | keepAliveSecs
  | queueCapacity
  deriving DecidableEq, Repr

namespace Field

def all : List Field := [.localDomain, .highestOnly, .workers, .keepAliveSecs, .queueCapacity]

def name : Field → String
  | .localDomain => "local_domain"
  | .highestOnly => "deliver_to_highest_priority_only"
  | .workers => "workers"
  | .keepAliveSecs => "keep_alive_secs"
  | .queueCapacity => "queue_capacity"

def ofName? (name : String) : Option Field := all.find? (·.name == name)

theorem ofName?_name (f : Field) : ofName? f.name = some f := by
  cases f <;> rfl

/-- The field as the configuration has it. -/
def get (f : Field) (c : Configuration) : Json.Value :=
  match f with
  | .localDomain => .text c.localDomain
  | .highestOnly => .bool c.highestOnly
  | .workers => .natural c.workers.toNat
  | .keepAliveSecs => .natural c.keepAliveSecs.toNat
  | .queueCapacity => .natural c.queueCapacity.toNat

def set? (f : Field) (value : Json.Value) (c : Configuration) : Option Configuration :=
  match f, value with
  | .localDomain, .text s => some { c with localDomain := s }
  | .highestOnly, .bool b => some { c with highestOnly := b }
  | .workers, .natural n => (Text.wordOfNat? n).map fun w => { c with workers := w }
  | .keepAliveSecs, .natural n => (Text.wordOfNat? n).map fun w => { c with keepAliveSecs := w }
  | .queueCapacity, .natural n => (Text.wordOfNat? n).map fun w => { c with queueCapacity := w }
  | _, _ => none

end Field

/-- The configuration with the members' values; `seen` are the fields already named. -/
def withMembers : List Json.Member → (seen : List Field) → Configuration → Option Configuration
  | [], _, c => some c
  | (none, _) :: _, _, _ => none
  | (some name, value) :: rest, seen, c =>
    match Field.ofName? name with
    | none => withMembers rest seen c
    | some f => if f ∈ seen then none else (f.set? value c).bind (withMembers rest (f :: seen))

/-- The configuration with the items as the values of these fields in turn. -/
def withItems : List Json.Value → List Field → Configuration → Option Configuration
  | [], _, c => some c
  | _ :: _, [], _ => none
  | item :: items, f :: fields, c => (f.set? item c).bind (withItems items fields)

def ofJson? : Json.Value → Option Configuration
  | .object members => withMembers members [] default
  | .array items => withItems items Field.all default
  | _ => none

def toJson (c : Configuration) : Json.Value :=
  .object (Field.all.map fun f => (some f.name, f.get c))

def ofDocument? (text : String) : Option Configuration := (Json.read text.toList).bind ofJson?

def document (c : Configuration) : String := String.ofList (Json.write c.toJson)

end StanzaDelivery.Configuration
