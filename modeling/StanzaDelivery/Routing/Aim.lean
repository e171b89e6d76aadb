import StanzaDelivery.Routing.Policy
import StanzaDelivery.Session.Registry

/-! Where a stanza goes. The aim of a stanza is decided from its destination, its type
and the registry alone, before anything is handed over: to sessions of a local account,
to the component of another domain, to nobody because no session is eligible, to nobody
because the stanza is refused, or nowhere at all. -/

namespace StanzaDelivery

namespace Routing

/-- The lowest priority that lets a session be chosen by its priority. -/
def lowestPriority : Int8 := 0

/-- Which sessions of a bare address get a stanza. -/
inductive Selection
  | all
  | nonNegative
  | highest
  deriving DecidableEq, Repr

def Selection.choose (s : Selection) (r : Registry) (address : Address) : List Registry.Entry :=
  match s with
  | .all => r.sessionsFor address
  | .nonNegative => r.query (.atLeast lowestPriority) address
  | .highest => r.query (.highest lowestPriority) address

inductive Aim
  | nowhere
  | refused (fault : Fault)
  | component (domain : String)
  | sessions (ids : List SessionId)
  | nobody
  deriving DecidableEq, Repr

def Aim.ofEntries (entries : List Registry.Entry) : Aim :=
  if entries.isEmpty then .nobody else .sessions (entries.map (·.id))

def groupchatRefusal : Fault :=
  .serviceUnavailable "groupchat messages are handled by the groupchat service"

def unsupportedDomain (domain : String) : Fault :=
  .serviceUnavailable ("unsupported domain " ++ domain)

end Routing

namespace RoutingPolicy

open Routing

def isLocal (p : RoutingPolicy) (address : Address) : Bool := address.domain == p.localDomain

/-- Whether the domain is a name, a point, and the local domain. -/
def isComponentDomain (p : RoutingPolicy) (domain : String) : Bool :=
  ('.' :: p.localDomain.toList).isSuffixOf domain.toList &&
    p.localDomain.length + 1 < domain.length

/-- The selection for a bare address. An error message to one has nobody to go to. -/
def bareSelection (p : RoutingPolicy) (stanza : Stanza) : Option Selection :=
  match stanza with
  | .presence _ => some .all
  | .iq _ => some .highest
  | .message m =>
    match m.type with
    | .error => none
    | .headline => some .all
    | _ => if p.highestOnly then some .highest else some .nonNegative

/-- The session bound to the full address, or those of its account that may stand in. -/
def fullTargets (r : Registry) (address : Address) (stanza : Stanza) : List Registry.Entry :=
  let exact := Selection.highest.choose r address
  if exact.isEmpty && stanza.permitsBareFallback then
    Selection.highest.choose r address.bare.toAddress
  else exact

def aim (p : RoutingPolicy) (r : Registry) (address : Address) (stanza : Stanza) : Aim :=
  if !p.isLocal address then
    if p.isComponentDomain address.domain then .component address.domain
    else .refused (unsupportedDomain address.domain)
  else if stanza.messageType = some .groupchat then .refused groupchatRefusal
  else
    match address.resource with
    | some _ => .ofEntries (fullTargets r address stanza)
    | none =>
      match p.bareSelection stanza with
      | none => .nowhere
      | some selection => .ofEntries (selection.choose r address)

theorem isComponentDomain_iff (p : RoutingPolicy) (domain : String) :
    p.isComponentDomain domain = true ↔
      ∃ name : List Char, name ≠ [] ∧ domain.toList = name ++ '.' :: p.localDomain.toList := by
  simp only [isComponentDomain, Bool.and_eq_true, List.isSuffixOf_iff_suffix, decide_eq_true_eq]
  constructor
  · rintro ⟨⟨name, written⟩, longer⟩
    refine ⟨name, ?_, written.symm⟩
    rintro rfl
    have lengths := congrArg List.length written
    simp only [List.nil_append, List.length_cons, String.length_toList] at lengths
    omega
  · rintro ⟨name, nonempty, written⟩
    have lengths := congrArg List.length written
    have positive := List.length_pos_iff.2 nonempty
    simp only [List.length_append, List.length_cons, String.length_toList] at lengths
    exact ⟨⟨name, written.symm⟩, by omega⟩

end RoutingPolicy
end StanzaDelivery
