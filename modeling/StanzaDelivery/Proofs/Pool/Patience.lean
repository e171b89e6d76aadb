import StanzaDelivery.Proofs.Pool.Intake

/-! Workers whose time is up while no time goes by. There are none where all keep-alives were
positive. Those that give up and may not leave wait anew, for as long as is in force; so they do
not give up a second time, or, where no keep-alive is in force, nothing comes of it. Either way it
makes no difference to how many leave whether some of them have given up before. -/

namespace StanzaDelivery.Pool

variable {J : Type} {p : Pool J}

def Waits (p : Pool J) : Prop := ∀ deadline ∈ p.idle, p.clock < deadline

/-- If anybody's time is up, then because no keep-alive is in force. -/
def Punctual (p : Pool J) : Prop := p.Waits ∨ p.settings.keepAliveMs = 0

theorem unfinished_pass (p : Pool J) (ms : Nat) : (p.pass ms).unfinished = p.unfinished := by
  rw [pass_eq]
  rfl

theorem expiring_of_waits (waits : p.Waits) : p.expiring 0 = 0 := by
  rw [expiring, List.length_eq_zero_iff, List.filter_eq_nil_iff]
  intro deadline member
  simpa using waits deadline member

theorem pass_of_waits (waits : p.Waits) : p.pass 0 = p := by
  have line : p.idle.filter (p.clock + 0 < ·) = p.idle :=
    List.filter_eq_self.2 fun deadline member => decide_eq_true (waits deadline member)
  rw [pass_eq, line, expiring_of_waits waits]
  simp [leaving]

theorem waits_pass (positive : 0 < p.settings.keepAliveMs) (ms : Nat) : (p.pass ms).Waits := by
  rw [pass_eq]
  intro deadline member
  rcases List.mem_append.1 member with later | anew
  · exact of_decide_eq_true (List.mem_filter.1 later).2
  · rw [List.eq_of_mem_replicate anew]
    dsimp only
    omega

theorem punctual_pass (p : Pool J) (ms : Nat) : (p.pass ms).Punctual := by
  rcases Nat.eq_zero_or_pos p.settings.keepAliveMs with none | positive
  · right
    rw [pass_eq]
    exact none
  · exact .inl (waits_pass positive ms)

theorem length_filter_le_add (line : List Nat) (now ms : Nat) :
    (line.filter (· ≤ now)).length + ((line.filter (now < ·)).filter (· ≤ now + ms)).length =
      (line.filter (· ≤ now + ms)).length := by
  induction line with
  | nil => rfl
  | cons deadline rest ih =>
    simp only [List.filter_cons]
    by_cases up : deadline ≤ now
    · have soon : deadline ≤ now + ms := by omega
      simp only [up, soon, Nat.not_lt.2 up, decide_true, decide_false, if_true,
        Bool.false_eq_true, if_false, List.length_cons]
      omega
    · have later : now < deadline := by omega
      simp only [up, later, decide_true, decide_false, if_true, Bool.false_eq_true, if_false,
        List.filter_cons]
      split
      · simp only [List.length_cons]
        omega
      · exact ih

theorem expiring_pass (p : Pool J) (ms : Nat) :
    p.expiring 0 + (p.pass 0).expiring ms = p.expiring ms +
      if p.settings.keepAliveMs ≤ ms then p.expiring 0 - p.leaving (p.expiring 0) else 0 := by
  have parts := length_filter_le_add p.idle p.clock ms
  have later : (p.pass 0).expiring ms =
      ((p.idle.filter (p.clock < ·)).filter (· ≤ p.clock + ms)).length +
        if p.settings.keepAliveMs ≤ ms then p.expiring 0 - p.leaving (p.expiring 0) else 0 := by
    rw [pass_eq, expiring, List.filter_append, List.length_append, List.filter_replicate]
    simp only [Nat.add_zero, Nat.add_le_add_iff_left, decide_eq_true_eq, apply_ite List.length,
      List.length_replicate, List.length_nil]
  rw [later]
  simp only [expiring, Nat.add_zero]
  omega

theorem leaving_pass (p : Pool J) (ms : Nat) :
    p.leaving (p.expiring 0) + (p.pass 0).leaving ((p.pass 0).expiring ms) =
      p.leaving (p.expiring ms) := by
  have all := p.expiring_pass ms
  have settings : (p.pass 0).settings = p.settings := by rw [pass_eq]
  have workers : (p.pass 0).workers = p.workers - p.leaving (p.expiring 0) := by rw [pass_eq]
  simp only [leaving, settings, workers] at all ⊢
  split at all <;> omega

theorem workers_pass_pass (p : Pool J) (ms : Nat) :
    ((p.pass 0).pass ms).workers = (p.pass ms).workers := by
  have workers : (p.pass 0).workers = p.workers - p.leaving (p.expiring 0) := by rw [pass_eq]
  rw [pass_eq (p.pass 0), pass_eq p ms, workers, ← p.leaving_pass ms]
  dsimp only
  omega

theorem Punctual.pass_pass (punctual : p.Punctual) (ms : Nat) : (p.pass 0).pass ms = p.pass ms := by
  rcases punctual with waits | none
  · rw [pass_of_waits waits]
  · have gone := p.leaving_pass ms
    have all := p.expiring_pass ms
    have few : p.leaving (p.expiring 0) ≤ p.expiring 0 := Nat.min_le_left ..
    rw [none, if_pos (Nat.zero_le ms)] at all
    have clock : (p.pass 0).clock = p.clock := by rw [pass_eq]; rfl
    have settings : (p.pass 0).settings = p.settings := by rw [pass_eq]
    have line : (p.pass 0).idle.filter (p.clock + ms < ·) = p.idle.filter (p.clock + ms < ·) := by
      have kept : (p.pass 0).idle.filter (p.clock + ms < ·) =
          (p.idle.filter (p.clock < ·)).filter (p.clock + ms < ·) := by
        rw [pass_eq]
        simp [none]
      rw [kept, List.filter_filter]
      refine List.filter_congr fun deadline _ => ?_
      rw [← Bool.decide_and, decide_eq_decide]
      omega
    have anew : (p.pass 0).expiring ms - (p.pass 0).leaving ((p.pass 0).expiring ms) =
        p.expiring ms - p.leaving (p.expiring ms) := by omega
    rw [pass_eq (p.pass 0), pass_eq p ms, clock, line, settings, anew, ← gone, pass_eq]
    simp only [Pool.mk.injEq, true_and, and_true]
    omega

theorem pass_pass_zero (p : Pool J) (ms : Nat) : (p.pass ms).pass 0 = p.pass ms := by
  rcases Nat.eq_zero_or_pos p.settings.keepAliveMs with none | positive
  · have few : p.leaving (p.expiring ms) ≤ p.expiring ms := Nat.min_le_left ..
    have again : (p.pass ms).expiring 0 = p.expiring ms - p.leaving (p.expiring ms) := by
      rw [pass_eq, expiring]
      simp [none, List.filter_filter]
    have stay : (p.pass ms).leaving ((p.pass ms).expiring 0) = 0 := by
      have settings : (p.pass ms).settings = p.settings := by rw [pass_eq]
      have workers : (p.pass ms).workers = p.workers - p.leaving (p.expiring ms) := by rw [pass_eq]
      simp only [leaving, again, settings, workers] at few ⊢
      omega
    have line : (p.pass ms).idle.filter ((p.pass ms).clock + 0 < ·) =
        p.idle.filter (p.clock + ms < ·) := by
      rw [pass_eq]
      simp [none, List.filter_filter]
    rw [pass_eq (p.pass ms), stay, line, again, pass_eq]
    simp
  · exact pass_of_waits (waits_pass positive ms)

end StanzaDelivery.Pool
