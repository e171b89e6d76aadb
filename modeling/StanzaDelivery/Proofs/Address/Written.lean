import Mathlib.Data.List.TakeWhile
import StanzaDelivery.Address

/-! Addresses by the way they are written. A full address is under an account if it is
written as the account, a slash, and something more. Where no part in front of the resource
holds a separator, that is the same as being an address of this account; where one does,
an address can be under an account that is not its own. -/

namespace StanzaDelivery

def FullAddress.isUnder (full : FullAddress) (account : BareAddress) : Bool :=
  (account.text.toList ++ ['/']).isPrefixOf full.text.toList

theorem FullAddress.isUnder_iff (full : FullAddress) (account : BareAddress) :
    full.isUnder account = true ↔
      ∃ resource, full.text = (FullAddress.mk account resource).text := by
  have written : ∀ resource, (FullAddress.mk account resource).text.toList =
      account.text.toList ++ ['/'] ++ resource.toList := by
    intro resource
    simp [FullAddress.text, String.toList_append]
  rw [FullAddress.isUnder, List.isPrefixOf_iff_prefix]
  constructor
  · rintro ⟨rest, same⟩
    refine ⟨String.ofList rest, String.toList_inj.1 ?_⟩
    rw [written, String.toList_ofList, same]
  · rintro ⟨resource, same⟩
    exact ⟨resource.toList, by rw [same, written]⟩

theorem FullAddress.isUnder_of_text {full : FullAddress} {account : BareAddress}
    (own : full.bare.text = account.text) : full.isUnder account = true := by
  rw [FullAddress.isUnder_iff]
  refine ⟨full.resource, ?_⟩
  rw [FullAddress.text, own]
  rfl

/-- The node and the domain hold no separator. -/
structure BareAddress.Plain (a : BareAddress) : Prop where
  node : ∀ node, a.node = some node → '@' ∉ node.toList ∧ '/' ∉ node.toList
  domain : '@' ∉ a.domain.toList ∧ '/' ∉ a.domain.toList

namespace Address

theorem splitAtFirst_of_notMem {separator : Char} {cs : List Char} (without : separator ∉ cs) :
    splitAtFirst separator cs = (cs, none) := by
  have all : cs.dropWhile (· != separator) = [] := by
    apply List.dropWhile_eq_nil_iff.2
    intro c member
    exact bne_iff_ne.2 fun same => without (same ▸ member)
  rw [splitAtFirst, all]

theorem splitAtFirst_fst (separator : Char) (cs : List Char) :
    (splitAtFirst separator cs).1 = cs.takeWhile (· != separator) := by
  rw [splitAtFirst]
  split
  next none =>
    have whole := List.takeWhile_append_dropWhile (p := (· != separator)) (l := cs)
    rw [none, List.append_nil] at whole
    exact whole.symm
  next => rfl

theorem splitAtFirst_append {separator : Char} {front : List Char}
    (without : separator ∉ front) (after : List Char) :
    splitAtFirst separator (front ++ separator :: after) = (front, some after) := by
  have others : ∀ c ∈ front, (c != separator) = true := fun c member =>
    bne_iff_ne.2 fun same => without (same ▸ member)
  rw [splitAtFirst, List.dropWhile_append_of_pos others, List.takeWhile_append_of_pos others]
  simp

end Address

namespace BareAddress.Plain

variable {a b : BareAddress}

theorem slash_notMem (plain : a.Plain) : '/' ∉ a.text.toList := by
  rw [BareAddress.text]
  cases front : a.node with
  | none => exact plain.domain.2
  | some node => simp [String.toList_append, (plain.node node front).2, plain.domain.2]

theorem splitAtFirst_text (plain : a.Plain) :
    Address.splitAtFirst '@' a.text.toList =
      match a.node with
      | none => (a.domain.toList, none)
      | some node => (node.toList, some a.domain.toList) := by
  rw [BareAddress.text]
  cases front : a.node with
  | none => exact Address.splitAtFirst_of_notMem plain.domain.1
  | some node =>
    have written : (node ++ "@" ++ a.domain).toList =
        node.toList ++ '@' :: a.domain.toList := by
      simp [String.toList_append]
    dsimp only
    rw [written]
    exact Address.splitAtFirst_append (plain.node node front).1 _

theorem eq_of_text (one : a.Plain) (other : b.Plain) (same : a.text = b.text) : a = b := by
  have split := one.splitAtFirst_text
  rw [same, other.splitAtFirst_text] at split
  obtain ⟨node, domain⟩ := a
  obtain ⟨node', domain'⟩ := b
  cases node <;> cases node' <;> simp [String.toList_inj] at split ⊢
  · exact split.symm
  · exact ⟨split.1.symm, split.2.symm⟩

theorem bare_eq_of_isUnder {full : FullAddress} (own : full.bare.Plain) (plain : a.Plain)
    (under : full.isUnder a = true) : full.bare = a := by
  obtain ⟨resource, same⟩ := (full.isUnder_iff a).1 under
  have split : ∀ (account : BareAddress) (resource : String), account.Plain →
      Address.splitAtFirst '/' (FullAddress.mk account resource).text.toList =
        (account.text.toList, some resource.toList) := by
    intro account resource plain
    have written : (FullAddress.mk account resource).text.toList =
        account.text.toList ++ '/' :: resource.toList := by
      simp [FullAddress.text, String.toList_append]
    rw [written]
    exact Address.splitAtFirst_append plain.slash_notMem _
  have front := split full.bare full.resource own
  rw [same, split a resource plain] at front
  exact own.eq_of_text plain (String.toList_inj.1 (congrArg Prod.fst front).symm)

end BareAddress.Plain
end StanzaDelivery
