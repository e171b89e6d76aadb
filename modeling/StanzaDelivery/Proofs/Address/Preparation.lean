import Mathlib.Data.List.Basic
import StanzaDelivery.Address
import StanzaDelivery.Proofs.Text.Characters

/-! What the tables make of a part. In ASCII they put the capitals of a domain into small letters
and change nothing else, and they leave no slash in a node. -/

namespace StanzaDelivery.Address

open Text

namespace Preparation

variable {cs : List Char} {c x : Char}

theorem isRemoved_of_ascii (inside : c.toNat < 0x80) : isRemoved c = false :=
  of_ascii (p := fun c => isRemoved c = false) (by decide) inside

theorem flatMap_foldCase_of_ascii (inside : c.toNat < 0x80) :
    (foldCase c).flatMap plainForm = [c.toLower] :=
  of_ascii (p := fun c => (foldCase c).flatMap plainForm = [c.toLower]) (by decide) inside

theorem toLower_of_ascii (inside : c.toNat < 0x80) :
    c.toLower.toNat < 0x80 ∧ permits .domain c.toLower = true ∧ isRightToLeft c.toLower = false :=
  of_ascii (p := fun c => c.toLower.toNat < 0x80 ∧ permits .domain c.toLower = true ∧
    isRightToLeft c.toLower = false) (by decide) inside

theorem mapped_of_ascii (inside : ∀ c ∈ cs, c.toNat < 0x80) :
    mapped .domain cs = cs.map Char.toLower := by
  have kept : cs.filter (fun c => !isRemoved c) = cs :=
    List.filter_eq_self.2 fun c member => by simp [isRemoved_of_ascii (inside c member)]
  have each : ∀ c ∈ cs, (foldCase c).flatMap plainForm = [c.toLower] :=
    fun c member => flatMap_foldCase_of_ascii (inside c member)
  simp only [mapped, Part.foldsCase, kept, if_true, List.flatMap_assoc]
  rw [List.flatMap_congr each, List.map_eq_flatMap]

theorem composed?_of_ascii (inside : x.toNat < 0x80) : composed? c x = none := by
  have acute : x.toNat ≠ 0x301 := by omega
  have dot : ¬(x.toNat = 0x307 ∧ c = 'I') := by omega
  rw [composed?, if_neg acute, if_neg dot]

theorem compose_of_ascii (inside : ∀ c ∈ cs, c.toNat < 0x80) : compose cs = cs := by
  fun_induction compose cs with
  | case1 => rfl
  | case2 c => rfl
  | case3 c mark rest made found =>
    have here := inside mark (by simp)
    rw [composed?_of_ascii here] at found
    cases found
  | case4 c mark rest unchanged ih =>
    rw [ih fun x member => inside x (List.mem_cons_of_mem _ member)]

theorem prepare?_tables_of_ascii (inside : ∀ c ∈ cs, c.toNat < 0x80) :
    tables.prepare? .domain cs = some (cs.map Char.toLower) := by
  have small : ∀ c ∈ cs.map Char.toLower, c.toNat < 0x80 ∧ permits .domain c = true ∧
      isRightToLeft c = false := by
    intro _ member
    obtain ⟨c, there, rfl⟩ := List.mem_map.1 member
    exact toLower_of_ascii (inside c there)
  have permitted : (cs.map Char.toLower).all (permits .domain) = true :=
    List.all_eq_true.2 fun c member => (small c member).2.1
  have direction : hasOneDirection (cs.map Char.toLower) = true := by
    have none : (cs.map Char.toLower).any isRightToLeft = false :=
      List.any_eq_false.2 fun c member => by simp [(small c member).2.2]
    rw [hasOneDirection, none]
    rfl
  simp only [tables, mapped_of_ascii inside,
    compose_of_ascii fun c member => (small c member).1, permitted, direction, Bool.and_self,
    if_true]

theorem permits_of_prepare?_tables {part : Part} {prepared : List Char}
    (done : tables.prepare? part cs = some prepared) : ∀ c ∈ prepared, permits part c = true := by
  simp only [tables] at done
  split at done
  next fit =>
    rw [← Option.some.inj done]
    exact List.all_eq_true.1 (Bool.and_eq_true_iff.1 fit).1
  next => cases done

theorem lawful_tables : tables.Lawful where
  domain_ascii _ inside := prepare?_tables_of_ascii inside
  node_unslashed _ _ done slash := absurd (permits_of_prepare?_tables done '/' slash) (by decide)

end Preparation
end StanzaDelivery.Address
