import StanzaDelivery.Configuration
import StanzaDelivery.Proofs.Address.Domains
import StanzaDelivery.Proofs.Address.Preparation
import StanzaDelivery.Proofs.Routing.Failures

/-! Addresses of the configured domain. A router compares the domain of an address, which is
prepared, with the configured text as it stands. So the addresses that are written with this text
are local if it is its own prepared form. Otherwise none of them is; the check of a configuration
does not tell the two apart. -/

namespace StanzaDelivery

open Address Routing

namespace Address

def written (node domain : String) (resource : Option String) : String :=
  node ++ "@" ++ domain ++ resource.elim "" ("/" ++ ·)

/-- The text holds no separator, so that in front of one it is the node. -/
def IsPlainNode (node : String) : Prop := '@' ∉ node.toList ∧ '/' ∉ node.toList

instance : DecidablePred IsPlainNode := fun _ => inferInstanceAs (Decidable (_ ∧ _))

/-- The text is the domain of the addresses that are written with it: what stands in front of its
first slash is prepared to be the text itself. -/
def IsPrepared (p : Preparation) (domain : String) : Prop :=
  p.prepare? .domain (domain.toList.takeWhile (· != '/')) = some domain.toList

instance (p : Preparation) : DecidablePred (IsPrepared p) :=
  fun _ => inferInstanceAs (Decidable (_ = _))

variable {p : Preparation} {node domain : String} {resource : Option String} {a : Address}

theorem eq_takeWhile_of_length_le {domain : List Char}
    (short : domain.length ≤ (domain.takeWhile (· != '/')).length) :
    domain.takeWhile (· != '/') = domain :=
  (List.takeWhile_prefix _).eq_of_length_le short

theorem isPrepared_iff_of_ascii (lawful : p.Lawful) (inside : ∀ c ∈ domain.toList, c.toNat < 0x80) :
    IsPrepared p domain ↔ ∀ c ∈ domain.toList, c ≠ '/' ∧ c.isUpper = false := by
  have same : ∀ c ∈ domain.toList, c.toLower = c ↔ c.isUpper = false := fun c member =>
    Text.of_ascii (p := fun c => c.toLower = c ↔ c.isUpper = false) (by decide)
      (inside c member)
  have unchanged : domain.toList.map Char.toLower = domain.toList ↔
      ∀ c ∈ domain.toList, c.toLower = c := by
    nth_rewrite 2 [← List.map_id domain.toList]
    exact List.map_inj_left
  rw [IsPrepared, lawful.domain_ascii _ fun c member =>
    inside c ((List.takeWhile_prefix _).subset member), Option.some_inj]
  constructor
  · intro prepared
    have lengths := congrArg List.length prepared
    rw [List.length_map] at lengths
    have whole := eq_takeWhile_of_length_le lengths.ge
    rw [whole, unchanged] at prepared
    intro c member
    refine ⟨?_, (same c member).1 (prepared c member)⟩
    rintro rfl
    rw [← whole] at member
    exact absurd (List.mem_takeWhile_imp member) (by decide)
  · intro each
    have whole : domain.toList.takeWhile (· != '/') = domain.toList :=
      List.takeWhile_eq_self_iff.2 fun c member => bne_iff_ne.2 (each c member).1
    rw [whole, unchanged]
    exact fun c member => (same c member).2 (each c member).2

theorem takeWhile_written (plain : IsPlainNode node) :
    (written node domain resource).toList.takeWhile (· != '/') =
      node.toList ++ '@' :: domain.toList.takeWhile (· != '/') := by
  have front : ∀ c ∈ node.toList ++ ['@'], (c != '/') = true := by
    intro c member
    rcases List.mem_append.1 member with there | sign
    · exact bne_iff_ne.2 fun same => plain.2 (same ▸ there)
    · rw [List.mem_singleton.1 sign]
      decide
  have back : (resource.elim "" ("/" ++ ·)).toList.takeWhile (· != '/') = [] := by
    cases resource with
    | none => rfl
    | some resource => simp [String.toList_append]
  have text : (written node domain resource).toList = (node.toList ++ ['@']) ++
      (domain.toList ++ (resource.elim "" ("/" ++ ·)).toList) := by
    simp [written, String.toList_append]
  rw [text, List.takeWhile_append_of_pos front, List.takeWhile_append, back, List.append_nil,
    List.append_assoc]
  split
  next whole =>
    rw [(List.takeWhile_prefix _).eq_of_length whole]
    rfl
  next => rfl

theorem prepare?_of_readBy_written (plain : IsPlainNode node)
    (read : Address.readBy p (written node domain resource) = .ok a) :
    p.prepare? .domain (domain.toList.takeWhile (· != '/')) = some a.domain.toList := by
  have bare := readBareBy_of_readBy read
  rw [takeWhile_written plain, readBareBy, splitAtFirst_append plain.1] at bare
  dsimp only at bare
  cases name : Part.node.readBy p node.toList with
  | error defect =>
    rw [name] at bare
    cases bare
  | ok name' =>
    cases rest : Part.domain.readBy p (domain.toList.takeWhile (· != '/')) with
    | error defect =>
      rw [name, rest] at bare
      cases bare
    | ok domain =>
      rw [name, rest] at bare
      rw [prepare?_of_readBy rest, Address.domain, ← Except.ok.inj bare]

theorem domain_eq_iff_isPrepared (plain : IsPlainNode node)
    (read : Address.readBy p (written node domain resource) = .ok a) :
    a.domain = domain ↔ IsPrepared p domain := by
  rw [IsPrepared, prepare?_of_readBy_written plain read, Option.some_inj, String.toList_inj]

theorem length_domain_le_of_ascii (lawful : p.Lawful) (inside : ∀ c ∈ domain.toList, c.toNat < 0x80)
    (plain : IsPlainNode node) (read : Address.readBy p (written node domain resource) = .ok a) :
    a.domain.toList.length ≤ domain.toList.length := by
  have before := List.takeWhile_prefix (l := domain.toList) (· != '/')
  have prepare := prepare?_of_readBy_written plain read
  rw [lawful.domain_ascii _ fun c member => inside c (before.subset member)] at prepare
  rw [← Option.some.inj prepare, List.length_map]
  exact before.length_le

end Address

namespace Routing

variable {p : RoutingPolicy} {a : Address}

theorem not_isComponentDomain_of_length_le
    (short : a.domain.toList.length ≤ p.localDomain.toList.length) :
    p.isComponentDomain a.domain = false := by
  rw [← Bool.not_eq_true, p.isComponentDomain_iff]
  rintro ⟨name, _, same⟩
  have lengths := congrArg List.length same
  simp only [List.length_append, List.length_cons] at lengths
  omega

theorem groupchatRefusal_ne_unsupportedDomain (domain : String) :
    groupchatRefusal ≠ unsupportedDomain domain := by
  intro same
  have texts := congrArg String.toList (Fault.serviceUnavailable.inj same)
  rw [String.toList_append] at texts
  exact absurd (congrArg List.head? texts) (by simp)

theorem aim_ne_unsupportedDomain (here : a.domain = p.localDomain) (r : Registry) (stanza : Stanza)
    (domain : String) : p.aim r a stanza ≠ .refused (unsupportedDomain domain) := by
  intro aim
  have isLocal : p.isLocal a = true := beq_iff_eq.2 here
  simp only [RoutingPolicy.aim, isLocal, Bool.not_true, Bool.false_eq_true, if_false] at aim
  unfold Aim.ofEntries at aim
  repeat' split at aim
  all_goals first
    | exact groupchatRefusal_ne_unsupportedDomain domain (Aim.refused.inj aim)
    | cases aim

/-- What is written with the configured domain is local if this text is prepared, and goes neither
to a component nor is it refused for its domain. If the text is not prepared, nothing written with
it is local: its stanzas are for a component, or are refused for their domain. An ASCII text is
prepared if it has neither capitals nor slashes; if it is not, they are always refused. -/
theorem configured_domain_is_local_unless_unprepared {p : Preparation} (lawful : p.Lawful)
    (c : Configuration) {node : String} {resource : Option String} {a : Address}
    (plain : IsPlainNode node)
    (read : Address.readBy p (written node c.localDomain resource) = .ok a) :
    (IsPrepared p c.localDomain →
      c.routingPolicy.isLocal a = true ∧
        ∀ registry stanza domain,
          c.routingPolicy.aim registry a stanza ≠ .component domain ∧
            c.routingPolicy.aim registry a stanza ≠ .refused (unsupportedDomain domain)) ∧
      (¬IsPrepared p c.localDomain →
        c.routingPolicy.isLocal a = false ∧
          ∀ registry stanza,
            c.routingPolicy.aim registry a stanza = .component a.domain ∨
              c.routingPolicy.aim registry a stanza = .refused (unsupportedDomain a.domain)) ∧
      ((∀ letter ∈ c.localDomain.toList, letter.toNat < 0x80) →
        (IsPrepared p c.localDomain ↔
          ∀ letter ∈ c.localDomain.toList, letter ≠ '/' ∧ letter.isUpper = false) ∧
        (¬IsPrepared p c.localDomain → ∀ keepsOffline knowsComponents deliver stanza site,
          (Router.mk c.routingPolicy keepsOffline knowsComponents).resolve deliver a stanza site =
            (.reported (.failed (unsupportedDomain a.domain)), site))) := by
  have home := domain_eq_iff_isPrepared plain read
  refine ⟨?_, ?_, ?_⟩
  · intro prepared
    have here : a.domain = c.routingPolicy.localDomain := home.2 prepared
    refine ⟨beq_iff_eq.2 here, fun registry stanza domain => ⟨?_, ?_⟩⟩
    · intro aim
      exact (aim_eq_component_iff.1 aim).1 here
    · exact aim_ne_unsupportedDomain here registry stanza domain
  · intro unprepared
    have foreign : a.domain ≠ c.routingPolicy.localDomain := fun here => unprepared (home.1 here)
    refine ⟨beq_eq_false_iff_ne.2 foreign, fun registry stanza => ?_⟩
    rw [aim_of_ne_localDomain foreign]
    split
    · exact .inl rfl
    · exact .inr rfl
  · intro ascii
    refine ⟨isPrepared_iff_of_ascii lawful ascii, ?_⟩
    intro unprepared keepsOffline knowsComponents deliver stanza site
    have foreign : a.domain ≠ c.routingPolicy.localDomain := fun here => unprepared (home.1 here)
    have short := length_domain_le_of_ascii lawful ascii plain read
    rw [Router.resolve, aim_of_ne_localDomain foreign,
      not_isComponentDomain_of_length_le (p := c.routingPolicy) short]
    rfl

/-- Two configurations that differ in the capitals of their domain. -/
def serving (domain : String) : Configuration :=
  { Configuration.default with localDomain := domain }

def alice : BareAddress := ⟨some "alice", "waddle.social"⟩

theorem configured_domain_is_local_unless_unprepared_of_alice :
    Preparation.tables.Lawful ∧ IsPlainNode "alice" ∧ IsPrepared .tables "waddle.social" ∧
      Address.read (written "alice" "waddle.social" (some "phone")) = .ok ⟨alice, some "phone"⟩ ∧
      (serving "waddle.social").routingPolicy.isLocal ⟨alice, some "phone"⟩ = true := by
  have plain : IsPlainNode "alice" := by decide
  have prepared : IsPrepared .tables "waddle.social" := by decide +kernel
  have read : Address.readBy .tables
      (written "alice" (serving "waddle.social").localDomain (some "phone")) =
        .ok ⟨alice, some "phone"⟩ := by decide +kernel
  have settled := configured_domain_is_local_unless_unprepared Preparation.lawful_tables
    (serving "waddle.social") plain read
  exact ⟨Preparation.lawful_tables, plain, prepared, read, (settled.1 prepared).1⟩

/-- The configuration passes its check and its domain is that of an address, but this address is
not local, and a stanza to it is refused for its domain. -/
theorem capital_domain_is_not_local :
    (serving "Waddle.Social").check = .ok () ∧
      Address.read (written "alice" "Waddle.Social" none) = .ok alice.toAddress ∧
      (serving "Waddle.Social").routingPolicy.isLocal alice.toAddress = false ∧
      ∀ registry stanza,
        (serving "Waddle.Social").routingPolicy.aim registry alice.toAddress stanza =
          .refused (unsupportedDomain "waddle.social") := by
  refine ⟨by decide, by decide +kernel, by decide, fun registry stanza => ?_⟩
  rw [aim_of_ne_localDomain (by decide)]
  rfl

end Routing
end StanzaDelivery
