/-! Characters by their codes. -/

namespace StanzaDelivery.Text

theorem toNat_ofNat {n : Nat} (valid : n.isValidChar) : (Char.ofNat n).toNat = n := by
  rw [Char.ofNat, dif_pos valid]
  rfl

theorem toNat_valid (c : Char) : c.toNat < 0xD800 ∨ 0xDFFF < c.toNat ∧ c.toNat < 0x110000 :=
  c.valid

theorem of_ascii {p : Char → Prop} {c : Char} (all : ∀ n < 0x80, p (Char.ofNat n))
    (inside : c.toNat < 0x80) : p c := by
  rw [← Char.ofNat_toNat c]
  exact all _ inside

theorem of_mem {p : Char → Prop} [DecidablePred p] {c : Char} {cs : List Char}
    (all : cs.all (fun c => decide (p c)) = true) (member : c ∈ cs) : p c :=
  of_decide_eq_true (List.all_eq_true.1 all c member)

end StanzaDelivery.Text
