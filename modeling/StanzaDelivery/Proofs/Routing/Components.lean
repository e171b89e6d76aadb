import StanzaDelivery.Proofs.Routing.Unreachable

/-! Stanzas for other domains. A domain can have a component if it is a name, a point, and the
domain of the router. Whether it has one is decided by what was registered: the latest registration
counts, until it is replaced or taken back. Components and services are taken to be anything here,
with a state that they share. So they can note that they are called, and the notes tell that a
stanza for another domain calls one component or nobody. -/

namespace StanzaDelivery

theorem RoutingPolicy.isComponentDomain_iff_append (p : RoutingPolicy) (domain : String) :
    p.isComponentDomain domain = true ↔
      ∃ name, name ≠ "" ∧ domain = name ++ "." ++ p.localDomain := by
  rw [isComponentDomain_iff]
  constructor
  · rintro ⟨name, nonempty, written⟩
    refine ⟨String.ofList name, ?_, String.toList_inj.1 ?_⟩
    · intro blank
      exact nonempty (by simpa using congrArg String.toList blank)
    · simp [written]
  · rintro ⟨name, nonempty, rfl⟩
    exact ⟨name.toList, fun blank => nonempty (String.toList_inj.1 blank), by simp⟩

theorem RoutingPolicy.not_isComponentDomain_of_isLocal {p : RoutingPolicy} {address : Address}
    (here : p.isLocal address = true) : p.isComponentDomain address.domain = false := by
  have own : address.domain = p.localDomain := beq_iff_eq.1 here
  have short : ¬p.localDomain.length + 1 < p.localDomain.length := by omega
  simp [isComponentDomain, own, short]

def Components.named? (c : Components) (domain : String) : Option (String × Component) :=
  (c.component? domain).map (Prod.mk domain)

namespace Routing

open Handover

variable {σ π : Type}

inductive Registration (π : Type)
  | register (domain : String) (component : π)
  | unregister (domain : String)

namespace Registration

def domain : Registration π → String
  | .register domain _ => domain
  | .unregister domain => domain

def component? : Registration π → Option π
  | .register _ component => some component
  | .unregister _ => none

def assign (change : Registration π) (known : String → Option π) (domain : String) : Option π :=
  if domain = change.domain then change.component? else known domain

theorem assign_eq_some_iff {change : Registration π} {known : String → Option π} {domain : String}
    {component : π} :
    change.assign known domain = some component ↔
      change = .register domain component ∨
        change.domain ≠ domain ∧ known domain = some component := by
  unfold assign
  split
  next same =>
    subst same
    cases change with
    | register domain other => simp [Registration.component?, Registration.domain]
    | unregister domain => simp [Registration.component?, Registration.domain]
  next other =>
    constructor
    · exact fun kept => .inr ⟨Ne.symm other, kept⟩
    · rintro (rfl | ⟨_, kept⟩)
      · exact absurd rfl other
      · exact kept

def enter (change : Registration Component) (c : Components) : Components :=
  match change with
  | .register domain component => c.register domain component
  | .unregister domain => (c.unregister domain).2

theorem component?_enter (change : Registration Component) (c : Components) :
    (change.enter c).component? = change.assign c.component? := by
  funext domain
  cases change with
  | register name component => exact c.component?_register name domain component
  | unregister name => exact Components.lookup_without c.registered name domain

def named : Registration π → Registration (String × π)
  | .register domain component => .register domain (domain, component)
  | .unregister domain => .unregister domain

theorem named?_enter (change : Registration Component) (c : Components) :
    (change.enter c).named? = change.named.assign c.named? := by
  funext domain
  rw [Components.named?, component?_enter]
  cases change with
  | register name component =>
    by_cases same : domain = name <;>
      simp [assign, named, Components.named?, Registration.domain, Registration.component?, same]
  | unregister name =>
    by_cases same : domain = name <;>
      simp [assign, named, Components.named?, Registration.domain, Registration.component?, same]

end Registration

def resolver (history : List (Registration π)) : String → Option π :=
  history.foldl (fun known change => change.assign known) fun _ => none

/-- The component was registered for the domain, and nothing about the domain has changed since. -/
def Serves (history : List (Registration π)) (domain : String) (component : π) : Prop :=
  ∃ before after, history = before ++ .register domain component :: after ∧
    ∀ change ∈ after, change.domain ≠ domain

theorem serves_cons {first : Registration π} {rest : List (Registration π)} {domain : String}
    {component : π} :
    Serves (first :: rest) domain component ↔
      Serves rest domain component ∨
        first = .register domain component ∧ ∀ change ∈ rest, change.domain ≠ domain := by
  constructor
  · rintro ⟨before, after, split, untouched⟩
    cases before with
    | nil =>
      obtain ⟨rfl, rfl⟩ := List.cons.inj split
      exact .inr ⟨rfl, untouched⟩
    | cons _ before =>
      obtain ⟨rfl, rfl⟩ := List.cons.inj split
      exact .inl ⟨before, after, rfl, untouched⟩
  · rintro (⟨before, after, rfl, untouched⟩ | ⟨rfl, untouched⟩)
    · exact ⟨first :: before, after, rfl, untouched⟩
    · exact ⟨[], rest, rfl, untouched⟩

theorem foldl_assign_eq_some_iff (history : List (Registration π)) (known : String → Option π)
    (domain : String) (component : π) :
    history.foldl (fun known change => change.assign known) known domain = some component ↔
      Serves history domain component ∨
        known domain = some component ∧ ∀ change ∈ history, change.domain ≠ domain := by
  induction history generalizing known with
  | nil => simp [Serves]
  | cons first rest ih =>
    rw [List.foldl_cons, ih, serves_cons, Registration.assign_eq_some_iff, List.forall_mem_cons]
    constructor
    · rintro (serves | ⟨registered | ⟨other, kept⟩, untouched⟩)
      · exact .inl (.inl serves)
      · exact .inl (.inr ⟨registered, untouched⟩)
      · exact .inr ⟨kept, other, untouched⟩
    · rintro ((serves | ⟨registered, untouched⟩) | ⟨kept, other, untouched⟩)
      · exact .inl serves
      · exact .inr ⟨.inl registered, untouched⟩
      · exact .inr ⟨.inr ⟨other, kept⟩, untouched⟩

theorem resolver_eq_some_iff {history : List (Registration π)} {domain : String} {component : π} :
    resolver history domain = some component ↔ Serves history domain component := by
  rw [resolver, foldl_assign_eq_some_iff]
  exact or_iff_left nofun

theorem resolver_eq_none_iff {history : List (Registration π)} {domain : String} :
    resolver history domain = none ↔ ∀ component, ¬Serves history domain component := by
  simp only [← resolver_eq_some_iff, Option.eq_none_iff_forall_ne_some, ne_eq]

def enrolled (history : List (Registration Component)) : Components :=
  history.foldl (fun c change => change.enter c) .empty

theorem resolver_map_named (history : List (Registration Component)) :
    resolver (history.map .named) = (enrolled history).named? := by
  rw [resolver, List.foldl_map]
  change List.foldl _ (Components.named? .empty) history = _
  exact List.foldl_hom Components.named? fun c change => (change.named?_enter c).symm

/-- Whom a router calls besides the sessions. -/
structure Outside (σ π : Type) where
  services : Services σ
  process : π → Stanza → σ → Components.Answer × σ

inductive Call (π : Type)
  | request (request : Request)
  | process (component : π) (stanza : Stanza)
  deriving DecidableEq

def Outside.noting (outside : Outside σ π) : Outside (σ × List (Call π)) π where
  services :=
    { verify account := fun (state, calls) =>
        let (answer, state) := outside.services.verify account state
        (answer, state, calls ++ [.request (.verify account)])
      receive stanza := fun (state, calls) =>
        let (answer, state) := outside.services.receive stanza state
        (answer, state, calls ++ [.request (.receive stanza)]) }
  process component stanza := fun (state, calls) =>
    let (answer, state) := outside.process component stanza state
    (answer, state, calls ++ [.process component stanza])

def Services.beside (services : Services σ) (τ : Type) : Services (σ × τ) where
  verify account := fun (state, rest) =>
    let (answer, state) := services.verify account state
    (answer, state, rest)
  receive stanza := fun (state, rest) =>
    let (answer, state) := services.receive stanza state
    (answer, state, rest)

/-- The services and the components of a site. Each component knows its domain, under which it
keeps what it takes. -/
def ownOutside (accounts : Accounts) :
    Outside (StanzaStore × List (String × Stanza)) (String × Component) where
  services := (ownServices accounts).beside _
  process := fun (domain, component) stanza (pending, received) =>
    let (answer, components) := Components.hand ⟨[], received⟩ domain component stanza
    (answer, pending, components.received)

theorem handleOfflineBy_beside (services : Services σ) (keepsOffline : Bool)
    (account : BareAddress) (stanza : Stanza) (state : σ) {τ : Type} (rest : τ) :
    handleOfflineBy (services.beside τ) keepsOffline account stanza (state, rest) =
      ((handleOfflineBy services keepsOffline account stanza state).1,
        (handleOfflineBy services keepsOffline account stanza state).2, rest) := by
  obtain ⟨fault, _, last, plain, _, unreached⟩ :=
    unreached_handleOfflineBy services keepsOffline account stanza state
  rw [plain]
  cases unreached with
  | unverified verify => simp [handleOfflineBy, Services.beside, verify]
  | unknown verify => simp [handleOfflineBy, Services.beside, verify]
  | offline verify alone => simp [handleOfflineBy, Services.beside, verify, alone]
  | stored verify keeps receive =>
    simp [handleOfflineBy, Services.beside, verify, keeps, receive]
  | rejected verify keeps receive =>
    simp [handleOfflineBy, Services.beside, verify, keeps, receive]

def resolutionOf : Components.Answer → Resolution
  | .taken => .reported (.attempted [])
  | .refused fault => .reported (.failed fault)
  | .crashed => .crashed

def handToComponentBy (outside : Outside σ π) (find : String → Option π) (router : Router)
    (domain : String) (stanza : Stanza) (state : σ) : Resolution × σ :=
  if router.knowsComponents then
    match find domain with
    | none => (.reported (.failed (Router.noComponentFor domain)), state)
    | some component =>
      let (answer, state) := outside.process component stanza state
      (resolutionOf answer, state)
  else (.reported (.failed Router.noComponents), state)

/-- Does what `resolve` does, with these components and services in place of those of the site. -/
def resolveBeyond (outside : Outside σ π) (find : String → Option π) (router : Router)
    (deliver : Deliverer) (address : Address) (stanza : Stanza) (site : Site) (state : σ) :
    Resolution × Site × σ :=
  match router.policy.aim site.registry address stanza with
  | .component domain =>
    let (resolution, state) := handToComponentBy outside find router domain stanza state
    (resolution, site, state)
  | _ => resolveBy outside.services router deliver address stanza site state

theorem handToComponent_eq (router : Router) (domain : String) (stanza : Stanza) (site : Site) :
    ∃ resolution received,
      handToComponentBy (ownOutside site.accounts) site.components.named? router domain stanza
        (site.pending, site.components.received) = (resolution, site.pending, received) ∧
      router.handToComponent domain stanza site = (resolution,
        { site with components := { site.components with received := received } }) := by
  unfold handToComponentBy Router.handToComponent Components.named?
  cases router.knowsComponents with
  | false => exact ⟨_, _, rfl, rfl⟩
  | true =>
    simp only [if_true]
    cases site.components.component? domain with
    | none => exact ⟨_, _, rfl, rfl⟩
    | some component =>
      cases component <;> exact ⟨_, _, rfl, rfl⟩

theorem resolve_eq_resolveBeyond (router : Router) (deliver : Deliverer) (address : Address)
    (stanza : Stanza) (site : Site) :
    ∃ resolution after pending received,
      resolveBeyond (ownOutside site.accounts) site.components.named? router deliver address stanza
        site (site.pending, site.components.received) = (resolution, after, pending, received) ∧
      router.resolve deliver address stanza site =
        (resolution, { after with
          pending := pending, components := { after.components with received := received } }) := by
  unfold Router.resolve resolveBeyond resolveBy
  cases router.policy.aim site.registry address stanza with
  | component domain =>
    obtain ⟨resolution, received, beyond, own⟩ := handToComponent_eq router domain stanza site
    refine ⟨resolution, site, site.pending, received, ?_, own⟩
    simp only [beyond]
  | nobody =>
    rcases offline : handleOfflineBy (ownServices site.accounts) router.keepsOffline address.bare
      stanza site.pending with ⟨report, pending⟩
    refine ⟨.reported report, site, pending, site.components.received, ?_, ?_⟩
    · simp only [ownOutside, handleOfflineBy_beside, offline]
    · simp only [Router.carryOut, handleOffline_eq, offline]
  | nowhere => exact ⟨_, _, _, _, rfl, rfl⟩
  | refused fault => exact ⟨_, _, _, _, rfl, rfl⟩
  | sessions ids => exact ⟨_, _, _, _, rfl, rfl⟩

def Appointed (history : List (Registration π)) (router : Router) (domain : String)
    (component : π) : Prop :=
  (∃ name, name ≠ "" ∧ domain = name ++ "." ++ router.policy.localDomain) ∧
    router.knowsComponents = true ∧ Serves history domain component

/-- What becomes of a stanza for another domain: what is told of it, who is called, and the state
of the others afterwards. The component that is appointed is called with the stanza as it is, and
what it answers is told; it crashes, and nothing is told; or none is appointed. -/
inductive HandedOver (outside : Outside σ π) (history : List (Registration π)) (router : Router)
    (domain : String) (stanza : Stanza) (state : σ) : Resolution → List (Call π) → σ → Prop
  | taken {component : π} {after : σ} (appointed : Appointed history router domain component)
      (answer : outside.process component stanza state = (.taken, after)) :
      HandedOver outside history router domain stanza state (.reported (.attempted []))
        [.process component stanza] after
  | refused {component : π} {fault : Fault} {after : σ}
      (appointed : Appointed history router domain component)
      (answer : outside.process component stanza state = (.refused fault, after)) :
      HandedOver outside history router domain stanza state (.reported (.failed fault))
        [.process component stanza] after
  | crashed {component : π} {after : σ} (appointed : Appointed history router domain component)
      (answer : outside.process component stanza state = (.crashed, after)) :
      HandedOver outside history router domain stanza state .crashed
        [.process component stanza] after
  | unavailable {reason : String}
      (nobody : ∀ component, ¬Appointed history router domain component) :
      HandedOver outside history router domain stanza state
        (.reported (.failed (.serviceUnavailable reason))) [] state

variable {outside : Outside σ π} {history : List (Registration π)} {router : Router}
  {address : Address} {domain : String} {stanza : Stanza} {state last : σ}
  {resolution : Resolution} {calls : List (Call π)}

theorem handedOver_handToComponentBy (outside : Outside σ π) (history : List (Registration π))
    (component : router.policy.isComponentDomain domain = true) (stanza : Stanza) (state : σ) :
    ∃ resolution calls last,
      handToComponentBy outside (resolver history) router domain stanza state = (resolution, last) ∧
      handToComponentBy outside.noting (resolver history) router domain stanza (state, []) =
        (resolution, last, calls) ∧
      HandedOver outside history router domain stanza state resolution calls last := by
  have named := (router.policy.isComponentDomain_iff_append domain).1 component
  unfold handToComponentBy
  cases knows : router.knowsComponents with
  | false =>
    refine ⟨_, [], state, rfl, rfl, .unavailable ?_⟩
    rintro _ ⟨_, known, _⟩
    rw [knows] at known
    cases known
  | true =>
    simp only [if_true]
    cases found : resolver history domain with
    | none =>
      exact ⟨_, [], state, rfl, rfl, .unavailable fun component appointed =>
        resolver_eq_none_iff.1 found component appointed.2.2⟩
    | some component =>
      have appointed : Appointed history router domain component :=
        ⟨named, knows, resolver_eq_some_iff.1 found⟩
      rcases answer : outside.process component stanza state with ⟨answered, last⟩
      refine ⟨resolutionOf answered, [.process component stanza], last, ?_, ?_, ?_⟩
      · simp only [answer]
      · simp only [Outside.noting, answer, List.nil_append]
      · cases answered with
        | taken => exact .taken appointed answer
        | refused fault => exact .refused appointed answer
        | crashed => exact .crashed appointed answer

theorem handedOver_resolveBeyond (foreign : address.domain ≠ router.policy.localDomain)
    (outside : Outside σ π) (history : List (Registration π)) (stanza : Stanza) (state : σ) :
    ∃ resolution calls last,
      (∀ deliver site,
        resolveBeyond outside (resolver history) router deliver address stanza site state =
          (resolution, site, last) ∧
        resolveBeyond outside.noting (resolver history) router deliver address stanza site
          (state, []) = (resolution, site, last, calls)) ∧
      HandedOver outside history router address.domain stanza state resolution calls last := by
  cases component : router.policy.isComponentDomain address.domain with
  | false =>
    refine ⟨.reported (.failed (unsupportedDomain address.domain)), [], state, ?_, .unavailable ?_⟩
    · intro deliver site
      have aim := aim_of_ne_localDomain foreign site.registry stanza
      rw [component] at aim
      simp only [resolveBeyond, resolveBy, aim]
      exact ⟨rfl, rfl⟩
    · rintro _ ⟨named, _⟩
      rw [← RoutingPolicy.isComponentDomain_iff_append, component] at named
      cases named
  | true =>
    obtain ⟨resolution, calls, last, plain, noted, handed⟩ :=
      handedOver_handToComponentBy outside history component stanza state
    refine ⟨resolution, calls, last, ?_, handed⟩
    intro deliver site
    have aim := aim_of_ne_localDomain foreign site.registry stanza
    rw [component] at aim
    simp only [resolveBeyond, aim, if_true, plain, noted, and_self]

theorem HandedOver.one_or_none
    (handed : HandedOver outside history router domain stanza state resolution calls last) :
    (∃ component, Appointed history router domain component ∧
      calls = [.process component stanza] ∧ last = (outside.process component stanza state).2) ∨
    (∀ component, ¬Appointed history router domain component) ∧ calls = [] ∧ last = state := by
  cases handed with
  | taken appointed answer => exact .inl ⟨_, appointed, rfl, (congrArg Prod.snd answer).symm⟩
  | refused appointed answer => exact .inl ⟨_, appointed, rfl, (congrArg Prod.snd answer).symm⟩
  | crashed appointed answer => exact .inl ⟨_, appointed, rfl, (congrArg Prod.snd answer).symm⟩
  | unavailable nobody => exact .inr ⟨nobody, rfl, rfl⟩

theorem HandedOver.called_iff
    (handed : HandedOver outside history router domain stanza state resolution calls last) :
    (∃ component given, .process component given ∈ calls) ↔
      ∃ component, Appointed history router domain component := by
  rcases handed.one_or_none with ⟨component, appointed, rfl, _⟩ | ⟨nobody, rfl, _⟩
  · exact ⟨fun _ => ⟨component, appointed⟩, fun _ => ⟨component, stanza, List.mem_singleton_self _⟩⟩
  · simp [nobody]

theorem HandedOver.not_request
    (handed : HandedOver outside history router domain stanza state resolution calls last)
    (request : Request) : .request request ∉ calls := by
  rcases handed.one_or_none with ⟨_, _, rfl, _⟩ | ⟨_, rfl, _⟩ <;> simp

theorem HandedOver.pending_eq {accounts : Accounts} {pending : StanzaStore}
    {received : List (String × Stanza)} {last : StanzaStore × List (String × Stanza)}
    {history : List (Registration (String × Component))} {calls : List (Call (String × Component))}
    (handed : HandedOver (ownOutside accounts) history router domain stanza (pending, received)
      resolution calls last) : last.1 = pending := by
  rcases handed.one_or_none with ⟨_, _, _, rfl⟩ | ⟨_, _, rfl⟩ <;> rfl

/-- Whatever components were registered and taken back, a stanza for another domain calls a
component if the domain is a name, a point, and the domain of the router, the router can find
components, and one is registered for exactly that domain. It calls the one that was registered
last, once, with the stanza as it is, and tells its answer: that it took the stanza, or its fault.
Otherwise it calls nobody, and tells that the service is not available. It asks no service, and
sessions and site make no difference to it and stay as they are. With the components of its own
site this is what a router does; only what these have received changes then. No domain is at home
and that of a component. -/
theorem component_routing_is_exact (foreign : address.domain ≠ router.policy.localDomain)
    (outside : Outside σ π) (history : List (Registration π)) (stanza : Stanza) (state : σ) :
    (∃ resolution calls last,
      (∀ deliver site,
        resolveBeyond outside (resolver history) router deliver address stanza site state =
          (resolution, site, last) ∧
        resolveBeyond outside.noting (resolver history) router deliver address stanza site
          (state, []) = (resolution, site, last, calls)) ∧
      HandedOver outside history router address.domain stanza state resolution calls last ∧
      ((∃ component given, .process component given ∈ calls) ↔
        ∃ component,
          (∃ name, name ≠ "" ∧ address.domain = name ++ "." ++ router.policy.localDomain) ∧
            router.knowsComponents = true ∧ Serves history address.domain component) ∧
      ∀ request, .request request ∉ calls) ∧
    (∀ (past : List (Registration Component)) (deliver : Deliverer) (site : Site),
      site.components.registered = (enrolled past).registered →
      ∃ resolution calls received,
        router.resolve deliver address stanza site =
          (resolution, { site with components := { site.components with received := received } }) ∧
        HandedOver (ownOutside site.accounts) (past.map .named) router address.domain stanza
          (site.pending, site.components.received) resolution calls (site.pending, received)) ∧
    ∀ (policy : RoutingPolicy) (other : Address),
      ¬(policy.isLocal other = true ∧ policy.isComponentDomain other.domain = true) := by
  refine ⟨?_, ?_, ?_⟩
  · obtain ⟨resolution, calls, last, runs, handed⟩ :=
      handedOver_resolveBeyond foreign outside history stanza state
    exact ⟨resolution, calls, last, runs, handed, handed.called_iff, handed.not_request⟩
  · intro past deliver site same
    have find : resolver (past.map .named) = site.components.named? := by
      rw [resolver_map_named]
      funext domain
      rw [Components.named?, Components.named?, Components.component?, Components.component?, same]
    obtain ⟨resolution, calls, last, runs, handed⟩ := handedOver_resolveBeyond foreign
      (ownOutside site.accounts) (past.map .named) stanza (site.pending, site.components.received)
    obtain ⟨own, after, pending, received, beyond, resolved⟩ :=
      resolve_eq_resolveBeyond router deliver address stanza site
    have plain := (runs deliver site).1
    rw [find, beyond] at plain
    cases plain
    have kept : pending = site.pending := handed.pending_eq
    subst kept
    exact ⟨resolution, calls, received, resolved, handed⟩
  · rintro policy other ⟨here, component⟩
    rw [RoutingPolicy.not_isComponentDomain_of_isLocal here] at component
    cases component

theorem component_routing_is_exact_for_room :
    ∃ (router : Router) (room : Address) (stanza : Stanza) (site : Site)
      (past : List (Registration Component)),
      room.domain ≠ router.policy.localDomain ∧ stanza.messageType = some .groupchat ∧
      site.components.registered = (enrolled past).registered ∧
      Serves (past.map .named) room.domain (room.domain, .accepting) ∧
      (resolveBeyond (ownOutside site.accounts).noting (resolver (past.map .named)) router handoff
        room stanza site ((.empty 1, []), [])).2.2.2 =
          [.process (room.domain, .accepting) stanza] ∧
      ∃ received, router.resolve handoff room stanza site =
        (.reported (.attempted []),
          { site with components := { site.components with received := received } }) := by
  -- The component of a room refuses everything at first, and is then replaced by one that takes
  -- everything: a groupchat message for the room goes to the latter.
  let room : Address := ⟨⟨some "lobby", "muc.waddle.social"⟩, none⟩
  let stanza : Stanza := .message ⟨.groupchat, some room, none, none, some "hello", none⟩
  let router : Router := ⟨⟨"waddle.social", false⟩, false, true⟩
  let past : List (Registration Component) :=
    [.register room.domain (.refusing (.failed "closed")), .register "waddle.social" .crashing,
      .register room.domain .accepting, .unregister "waddle.social"]
  let site : Site := ⟨.empty, ⟨[], none⟩, .empty 1, .empty 0, false, enrolled past⟩
  have foreign : room.domain ≠ router.policy.localDomain := by decide
  have shown : (resolveBeyond (ownOutside site.accounts).noting (resolver (past.map .named)) router
      handoff room stanza site ((.empty 1, []), [])).2.2.2 =
        [.process (room.domain, .accepting) stanza] := by decide +kernel
  have told : (router.resolve handoff room stanza site).1 = .reported (.attempted []) := by
    decide +kernel
  obtain ⟨⟨_, calls, _, runs, handed, _⟩, own, _⟩ := component_routing_is_exact foreign
    (ownOutside site.accounts) (past.map .named) stanza (.empty 1, [])
  have known : calls = [.process (room.domain, .accepting) stanza] :=
    (congrArg (fun result => result.2.2.2) (runs handoff site).2).symm.trans shown
  obtain ⟨_, _, received, resolved, _⟩ := own past handoff site rfl
  refine ⟨router, room, stanza, site, past, foreign, rfl, rfl, ?_, shown, received, ?_⟩
  · subst known
    rcases handed.one_or_none with ⟨component, appointed, called, _⟩ | ⟨_, silent, _⟩
    · cases called
      exact appointed.2.2
    · cases silent
  · refine Prod.ext told ?_
    rw [resolved]

end Routing
end StanzaDelivery
