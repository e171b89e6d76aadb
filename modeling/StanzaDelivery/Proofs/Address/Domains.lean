import StanzaDelivery.Proofs.Address.Written

/-! Accounts of one domain. The node of an address that was read holds no slash. So all
accounts of a domain are written with as many slashes as the domain, and none of them, with a
slash behind it, is the begin of another: no full address is under two of them, whatever
separators stand in the domain. -/

namespace StanzaDelivery

def BareAddress.Unslashed (a : BareAddress) : Prop :=
  ∀ node, a.node = some node → '/' ∉ node.toList

namespace Address

variable {p : Preparation}

theorem prepare?_of_readBy {part : Part} {cs : List Char} {text : String}
    (read : part.readBy p cs = .ok text) : p.prepare? part cs = some text.toList := by
  unfold Part.readBy at read
  split at read
  next => cases read
  next => cases read
  next prepared _ prepare =>
    dsimp only at read
    split at read
    next =>
      cases read
      rw [prepare, String.toList_ofList]
    next => cases read

theorem unslashed_of_readBareBy (lawful : p.Lawful) {cs : List Char} {account : BareAddress}
    (read : readBareBy p cs = .ok account) : account.Unslashed := by
  unfold readBareBy at read
  split at read
  next domain _ =>
    cases part : Part.domain.readBy p domain with
    | error defect =>
      rw [part] at read
      cases read
    | ok text =>
      rw [part] at read
      cases read
      nofun
  next front domain _ =>
    cases node : Part.node.readBy p front with
    | error defect =>
      rw [node] at read
      cases read
    | ok text =>
      cases rest : Part.domain.readBy p domain with
      | error defect =>
        rw [node, rest] at read
        cases read
      | ok domain =>
        rw [node, rest] at read
        cases read
        rintro _ ⟨⟩
        exact lawful.node_unslashed _ _ (prepare?_of_readBy node)

theorem readBareBy_of_readBy {text : String} {address : Address}
    (read : Address.readBy p text = .ok address) :
    readBareBy p (text.toList.takeWhile (· != '/')) = .ok address.bare := by
  unfold Address.readBy at read
  rw [← splitAtFirst_fst]
  split at read
  next front split =>
    rw [split]
    cases bare : readBareBy p front with
    | error defect =>
      rw [bare] at read
      cases read
    | ok account =>
      rw [bare] at read
      cases read
      rfl
  next front resource split =>
    rw [split]
    cases bare : readBareBy p front with
    | error defect =>
      rw [bare] at read
      cases read
    | ok account =>
      cases rest : Part.resource.readBy p resource with
      | error defect =>
        rw [bare, rest] at read
        cases read
      | ok resource =>
        rw [bare, rest] at read
        cases read
        rfl

theorem unslashed_of_readBy (lawful : p.Lawful) {text : String} {address : Address}
    (read : Address.readBy p text = .ok address) : address.bare.Unslashed :=
  unslashed_of_readBareBy lawful (readBareBy_of_readBy read)

end Address

namespace BareAddress

variable {a b : BareAddress}

theorem Unslashed.count_slash (unslashed : a.Unslashed) :
    a.text.toList.count '/' = a.domain.toList.count '/' := by
  rw [text]
  cases front : a.node with
  | none => rfl
  | some node =>
    have none := List.count_eq_zero.2 (unslashed node front)
    simp [String.toList_append, none]

theorem eq_of_text_of_domain (domain : a.domain = b.domain) (same : a.text = b.text) : a = b := by
  obtain ⟨node, domain⟩ := a
  obtain ⟨node', domain'⟩ := b
  dsimp only at domain
  subst domain
  have lists := congrArg String.toList same
  cases node with
  | none =>
    cases node' with
    | none => rfl
    | some name =>
      have lengths := congrArg List.length lists
      simp [text, String.toList_append] at lengths
      omega
  | some name =>
    cases node' with
    | none =>
      have lengths := congrArg List.length lists
      simp [text, String.toList_append] at lengths
      omega
    | some other =>
      simp only [text, String.toList_append, List.append_assoc, List.append_cancel_right_eq,
        String.toList_inj] at lists
      rw [lists]

theorem Unslashed.eq_of_isPrefix (one : a.Unslashed) (other : b.Unslashed)
    (domain : a.domain = b.domain)
    (front : a.text.toList ++ ['/'] <+: b.text.toList ++ ['/']) : a = b := by
  rcases List.prefix_concat_iff.1 front with whole | inside
  · exact eq_of_text_of_domain domain (String.toList_inj.1 (List.append_cancel_right whole))
  · have few := inside.sublist.count_le '/'
    rw [List.count_append, List.count_singleton_self, one.count_slash, other.count_slash,
      domain] at few
    omega

theorem Unslashed.eq_of_isUnder {full : FullAddress} (one : a.Unslashed) (other : b.Unslashed)
    (domain : a.domain = b.domain) (under : full.isUnder a = true)
    (also : full.isUnder b = true) : a = b := by
  rw [FullAddress.isUnder, List.isPrefixOf_iff_prefix] at under also
  rcases List.prefix_or_prefix_of_prefix under also with front | front
  · exact one.eq_of_isPrefix other domain front
  · exact (other.eq_of_isPrefix one domain.symm front).symm

end BareAddress
end StanzaDelivery
