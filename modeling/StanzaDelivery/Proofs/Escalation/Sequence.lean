import StanzaDelivery.Proofs.Escalation.Chains
import StanzaDelivery.Proofs.Escalation.Deeds

/-! An escalation is its remedies one after the other, up to the first that ends badly. So if
nobody takes replies any more, the first remedy that wants to send one is the last that is tried;
and an escalation whose remedies neither send nor write anything down has to do with nothing but
the keeping of its own stanza. -/

namespace StanzaDelivery.Escalation

variable {σ τ : Type}

def ofRemedies (remedies : List Remedy) : Escalation := .chain (remedies.map .single)

theorem remedies_ofRemedies (list : List Remedy) : (ofRemedies list).remedies = list := by
  rw [ofRemedies, remedies]
  induction list with
  | nil => rfl
  | cons remedy rest ih =>
    rw [List.map_cons, remediesOfAll, remedies, ih]
    rfl

/-- From related states, the one user refuses every reply for this reason; apart from replies,
both give the same answers and go on to related states. -/
structure Facilities.Refuses (f : Facilities σ) (g : Facilities τ) (Related : σ → τ → Prop)
    (reason : Fault) : Prop where
  send : ∀ destination reply s t, Related s t →
    (f.send destination reply s).1 = .error reason
  keep : ∀ stanza s t, Related s t →
    (f.keep stanza s).1 = (g.keep stanza t).1 ∧ Related (f.keep stanza s).2 (g.keep stanza t).2
  note : ∀ stanza faults s t, Related s t →
    Related (f.note stanza faults s) (g.note stanza faults t)

def Sends (stanza : Stanza) (faults : List Fault) (remedy : Remedy) (destination : Address)
    (reply : Stanza) : Prop :=
  remedy = .bounce ∧ Bounce.reply? stanza faults = some (destination, reply)

section Refusal

variable {f : Facilities σ} {g : Facilities τ} {Related : σ → τ → Prop} {reason : Fault}
  {stanza : Stanza} {faults : List Fault}

theorem tryRemedy_of_silent {remedy : Remedy}
    (silent : ∀ destination reply, ¬Sends stanza faults remedy destination reply)
    (send : Address → Stanza → σ → Except Fault Unit × σ) (s : σ) :
    tryRemedy { f with send := send } stanza faults remedy s =
      tryRemedy f stanza faults remedy s := by
  cases remedy with
  | bounce =>
    have nothing : Bounce.reply? stanza faults = none :=
      Option.eq_none_iff_forall_ne_some.2 fun found call => silent found.1 found.2 ⟨rfl, call⟩
    simp only [tryRemedy, bounce, nothing]
  | storeOffline => rfl
  | note => rfl
  | ignore => rfl
  | fail fault => rfl
  | crash => rfl

theorem Facilities.Refuses.tryRemedy_eq (refuses : f.Refuses g Related reason) {remedy : Remedy}
    (silent : ∀ destination reply, ¬Sends stanza faults remedy destination reply) {s : σ} {t : τ}
    (related : Related s t) :
    (tryRemedy f stanza faults remedy s).1 = (tryRemedy g stanza faults remedy t).1 ∧
      Related (tryRemedy f stanza faults remedy s).2 (tryRemedy g stanza faults remedy t).2 := by
  have agree : Facilities.Agree { f with send := fun _ _ s => (.ok (), s) }
      { g with send := fun _ _ t => (.ok (), t) } Related :=
    ⟨fun _ _ _ _ same => ⟨rfl, same⟩, refuses.keep, refuses.note⟩
  have same := tryRemedy_agree stanza faults agree remedy related
  rwa [tryRemedy_of_silent (f := f) silent, tryRemedy_of_silent (f := g) silent] at same

/-- Either no reply is wanted and both users see the same, or there is a first remedy that
wants to send one, up to which both see the same and at which the refusal ends the sequence. -/
theorem Facilities.Refuses.inTurn_eq_or (refuses : f.Refuses g Related reason)
    (remedies : List Remedy) {s : σ} {t : τ} (related : Related s t) :
    ((inTurn (tryRemedy f stanza faults) remedies s).1 =
        (inTurn (tryRemedy g stanza faults) remedies t).1 ∧
      Related (inTurn (tryRemedy f stanza faults) remedies s).2
        (inTurn (tryRemedy g stanza faults) remedies t).2) ∨
    ∃ tried rest destination reply s' t', remedies = tried ++ .bounce :: rest ∧
      Bounce.reply? stanza faults = some (destination, reply) ∧
      inTurn (tryRemedy g stanza faults) tried t = (.done, t') ∧ Related s' t' ∧
      inTurn (tryRemedy f stanza faults) remedies s =
        (.fault reason, (f.send destination reply s').2) := by
  induction remedies generalizing s t with
  | nil => exact .inl ⟨rfl, related⟩
  | cons remedy rest ih =>
    by_cases loud : ∃ destination reply, Sends stanza faults remedy destination reply
    · obtain ⟨destination, reply, rfl, call⟩ := loud
      have refused := refuses.send destination reply s t related
      refine .inr ⟨[], rest, destination, reply, s, t, rfl, call, rfl, related, ?_⟩
      simp only [inTurn, tryRemedy, bounce, call, refused, Ending.ofFault]
    · have silent : ∀ destination reply, ¬Sends stanza faults remedy destination reply :=
        fun destination reply sends => loud ⟨destination, reply, sends⟩
      obtain ⟨endings, after⟩ := refuses.tryRemedy_eq silent related
      simp only [inTurn]
      generalize first : tryRemedy f stanza faults remedy s = one at endings after ⊢
      generalize second : tryRemedy g stanza faults remedy t = other at endings after ⊢
      obtain ⟨ending, s'⟩ := one
      obtain ⟨same, t'⟩ := other
      subst endings
      cases ending with
      | fault cause => exact .inl ⟨rfl, after⟩
      | crashed => exact .inl ⟨rfl, after⟩
      | done =>
        rcases ih after with alike | ⟨tried, more, destination, reply, u, v, rfl, call, done,
          still, refused⟩
        · exact .inl alike
        · refine .inr ⟨remedy :: tried, more, destination, reply, u, v, rfl, call, ?_, still,
            refused⟩
          simp only [inTurn, second, done]

end Refusal

/-- The remedy sends nothing and writes nothing down. -/
def isQuiet : Remedy → Bool
  | .bounce => false
  | .note => false
  | _ => true

def IsQuiet (e : Escalation) : Prop := ∀ remedy ∈ e.remedies, isQuiet remedy = true

instance (e : Escalation) : Decidable e.IsQuiet :=
  inferInstanceAs (Decidable (∀ remedy ∈ e.remedies, isQuiet remedy = true))

/-- Of what a user supplies, the keeping of this stanza alone. -/
def Facilities.only (f : Facilities σ) (stanza : Stanza) : Facilities σ where
  send := fun _ _ s => (.ok (), s)
  keep := fun _ s => f.keep stanza s
  note := fun _ _ s => s

section Quiet

variable {f : Facilities σ} {g : Facilities τ} {stanza : Stanza} {faults : List Fault}

theorem tryRemedy_only {remedy : Remedy} (quiet : isQuiet remedy = true) (s : σ) :
    tryRemedy (f.only stanza) stanza faults remedy s = tryRemedy f stanza faults remedy s := by
  cases remedy with
  | bounce => cases quiet
  | note => cases quiet
  | _ => rfl

theorem inTurn_only {remedies : List Remedy}
    (quiet : ∀ remedy ∈ remedies, isQuiet remedy = true) (s : σ) :
    inTurn (tryRemedy (f.only stanza) stanza faults) remedies s =
      inTurn (tryRemedy f stanza faults) remedies s :=
  inTurn_congr (fun remedy found => funext (tryRemedy_only (quiet remedy found))) s

theorem IsQuiet.tryAll_agree {e : Escalation} (quiet : e.IsQuiet) {Related : σ → τ → Prop}
    (keep : ∀ s t, Related s t → (f.keep stanza s).1 = (g.keep stanza t).1 ∧
      Related (f.keep stanza s).2 (g.keep stanza t).2)
    {s : σ} {t : τ} (related : Related s t) :
    (tryAll f stanza faults e s).1 = (tryAll g stanza faults e t).1 ∧
      Related (tryAll f stanza faults e s).2 (tryAll g stanza faults e t).2 := by
  have agree : (f.only stanza).Agree (g.only stanza) Related :=
    ⟨fun _ _ _ _ same => ⟨rfl, same⟩, fun _ => keep, fun _ _ _ _ same => same⟩
  have alike := Escalation.tryAll_agree stanza faults agree related e
  rw [tryAll_eq_inTurn, tryAll_eq_inTurn, inTurn_only quiet, inTurn_only quiet] at alike
  rw [tryAll_eq_inTurn, tryAll_eq_inTurn]
  exact alike

end Quiet

end StanzaDelivery.Escalation
