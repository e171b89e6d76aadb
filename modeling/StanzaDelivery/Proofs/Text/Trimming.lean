import Mathlib.Data.List.DropRight
import StanzaDelivery.Text.Blank

/-! Trimming. What is left of a text is the one part of it that has only blanks around it and no
blank at either end; for a text of blanks that is nothing. -/

namespace StanzaDelivery.Text

variable {cs core : List Char}

/-- The core stands between blanks in the text, and neither begins nor ends with one. -/
structure TrimsTo (cs core : List Char) : Prop where
  around : ∃ before after, cs = before ++ core ++ after ∧
    (∀ c ∈ before, isBlank c = true) ∧ ∀ c ∈ after, isBlank c = true
  first : ∀ c, core.head? = some c → isBlank c = false
  last : ∀ c, core.getLast? = some c → isBlank c = false

theorem trimsTo_trim (cs : List Char) : TrimsTo cs (trim cs) where
  around := by
    refine ⟨cs.takeWhile isBlank, (cs.dropWhile isBlank).rtakeWhile isBlank, ?_,
      fun c => List.mem_takeWhile_imp, fun c => List.mem_rtakeWhile_imp⟩
    have ends : trim cs ++ (cs.dropWhile isBlank).rtakeWhile isBlank = cs.dropWhile isBlank :=
      List.rdropWhile_append_rtakeWhile ..
    rw [List.append_assoc, ends, List.takeWhile_append_dropWhile]
  first := by
    intro c head
    have front : trim cs <+: cs.dropWhile isBlank := List.rdropWhile_prefix ..
    obtain ⟨rest, whole⟩ := front
    have here : (cs.dropWhile isBlank).head? = some c := by
      rw [← whole, List.head?_append, head, Option.some_or]
    simpa [here] using List.head?_dropWhile_not isBlank cs
  last := by
    intro c last
    have nonempty : trim cs ≠ [] := by
      intro nothing
      simp [nothing] at last
    rw [List.getLast?_eq_some_getLast nonempty] at last
    cases last
    exact Bool.eq_false_iff.2
      (List.rdropWhile_last_not isBlank (cs.dropWhile isBlank) nonempty)

theorem TrimsTo.trim_eq (trims : TrimsTo cs core) : trim cs = core := by
  obtain ⟨before, after, rfl, blankBefore, blankAfter⟩ := trims.around
  rw [trim, List.append_assoc, List.dropWhile_append_of_pos blankBefore]
  cases core with
  | nil =>
    have nothing : after.dropWhile isBlank = [] := List.dropWhile_eq_nil_iff.2 blankAfter
    rw [List.nil_append, nothing]
    rfl
  | cons c rest =>
    have kept : (c :: rest ++ after).dropWhile isBlank = c :: rest ++ after := by
      rw [List.cons_append, List.dropWhile_cons_of_neg]
      simp [trims.first c rfl]
    rw [kept, dropBlankEnd, List.reverse_append,
      List.dropWhile_append_of_pos (fun c member => blankAfter c (List.mem_reverse.1 member))]
    refine (List.rdropWhile_eq_self_iff (p := isBlank)).2 fun nonempty => ?_
    simp [trims.last _ (List.getLast?_eq_some_getLast nonempty)]

theorem trim_eq_iff : trim cs = core ↔ TrimsTo cs core :=
  ⟨fun trimmed => trimmed ▸ trimsTo_trim cs, TrimsTo.trim_eq⟩

theorem trim_eq_nil_iff : trim cs = [] ↔ ∀ c ∈ cs, isBlank c = true := by
  rw [trim_eq_iff]
  constructor
  · rintro ⟨⟨before, after, rfl, blankBefore, blankAfter⟩, _, _⟩ c member
    simp only [List.append_nil, List.mem_append] at member
    exact member.elim (blankBefore c) (blankAfter c)
  · intro blank
    exact ⟨⟨cs, [], by simp, blank, nofun⟩, nofun, nofun⟩

end StanzaDelivery.Text
