import StanzaDelivery.Fault
import StanzaDelivery.Stanza

/-! Server components, each answering for one domain. A component may take every stanza,
refuse every stanza with a fault, or crash. -/

namespace StanzaDelivery

inductive Component
  | accepting
  | refusing (fault : Fault)
  | crashing
  deriving DecidableEq, Repr

/-- `received` holds the stanzas that components took, each with the domain for which the
component was registered; it outlives the registration. -/
structure Components where
  registered : List (String × Component)
  received : List (String × Stanza)
  deriving DecidableEq, Repr

namespace Components

def empty : Components := ⟨[], []⟩

def without (domain : String) (registered : List (String × Component)) :
    List (String × Component) :=
  registered.filter fun entry => entry.1 != domain

def component? (c : Components) (domain : String) : Option Component :=
  c.registered.lookup domain

def register (c : Components) (domain : String) (component : Component) : Components :=
  { c with registered := (domain, component) :: without domain c.registered }

def unregister (c : Components) (domain : String) : Bool × Components :=
  ((c.component? domain).isSome, { c with registered := without domain c.registered })

/-- The domains that have a component, in ascending order. -/
def domains (c : Components) : List String :=
  (c.registered.map Prod.fst).mergeSort fun a b => decide (a ≤ b)

def receivedBy (c : Components) (domain : String) : List Stanza :=
  (c.received.filter (·.1 == domain)).map Prod.snd

/-- What comes of handing a stanza to a component. -/
inductive Answer
  | taken
  | refused (fault : Fault)
  | crashed
  deriving DecidableEq, Repr

def hand (c : Components) (domain : String) (component : Component) (stanza : Stanza) :
    Answer × Components :=
  match component with
  | .accepting => (.taken, { c with received := c.received ++ [(domain, stanza)] })
  | .refusing fault => (.refused fault, c)
  | .crashing => (.crashed, c)

theorem lookup_without (registered : List (String × Component)) (domain other : String) :
    (without domain registered).lookup other =
      if other = domain then none else registered.lookup other := by
  induction registered with
  | nil => simp [without]
  | cons entry rest ih =>
    obtain ⟨name, component⟩ := entry
    simp only [without] at ih
    by_cases removed : name = domain
    · subst removed
      by_cases same : other = name
      · subst same
        simpa [without] using ih
      · have differs : (other == name) = false := beq_eq_false_iff_ne.2 same
        simp [without, ih, same, List.lookup_cons, differs]
    · by_cases same : other = name
      · subst same
        simp [without, removed]
      · have differs : (other == name) = false := beq_eq_false_iff_ne.2 same
        simp [without, removed, List.lookup_cons, differs, ih]

theorem component?_register (c : Components) (domain other : String) (component : Component) :
    (c.register domain component).component? other =
      if other = domain then some component else c.component? other := by
  by_cases same : other = domain
  · simp [register, component?, same]
  · have differs : (other == domain) = false := beq_eq_false_iff_ne.2 same
    simp [register, component?, List.lookup_cons, differs, lookup_without, same]

end Components
end StanzaDelivery
