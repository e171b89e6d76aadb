import StanzaDelivery.Escalation

/-! What an escalation does is call its facilities, and nothing else. Users whose facilities
give the same answers see the same ending; what the calls spend is bounded by the number of
bounces; and the calls can be written down without changing anything. -/

namespace StanzaDelivery.Escalation

variable {σ τ : Type}

/-- From related states, both give the same answers and go on to related states. -/
structure Facilities.Agree (f : Facilities σ) (g : Facilities τ) (Related : σ → τ → Prop) :
    Prop where
  send : ∀ destination reply s t, Related s t →
    (f.send destination reply s).1 = (g.send destination reply t).1 ∧
      Related (f.send destination reply s).2 (g.send destination reply t).2
  keep : ∀ stanza s t, Related s t →
    (f.keep stanza s).1 = (g.keep stanza t).1 ∧ Related (f.keep stanza s).2 (g.keep stanza t).2
  note : ∀ stanza faults s t, Related s t →
    Related (f.note stanza faults s) (g.note stanza faults t)

section Agreement

variable {f : Facilities σ} {g : Facilities τ} {Related : σ → τ → Prop} (stanza : Stanza)
  (faults : List Fault)

theorem tryRemedy_agree (agree : f.Agree g Related) (remedy : Remedy) {s : σ} {t : τ}
    (related : Related s t) :
    (tryRemedy f stanza faults remedy s).1 = (tryRemedy g stanza faults remedy t).1 ∧
      Related (tryRemedy f stanza faults remedy s).2 (tryRemedy g stanza faults remedy t).2 := by
  cases remedy with
  | bounce =>
    simp only [tryRemedy, bounce]
    cases Bounce.reply? stanza faults with
    | none => exact ⟨rfl, related⟩
    | some found =>
      obtain ⟨answers, after⟩ := agree.send found.1 found.2 s t related
      exact ⟨congrArg Ending.ofFault answers, after⟩
  | storeOffline =>
    simp only [tryRemedy, storeOffline]
    by_cases wanted : wantsKeeping stanza faults = true
    · obtain ⟨answers, after⟩ := agree.keep stanza s t related
      rw [if_pos wanted, if_pos wanted]
      generalize f.keep stanza s = kept at answers after ⊢
      generalize g.keep stanza t = other at answers after ⊢
      obtain ⟨answer, s'⟩ := kept
      obtain ⟨same, t'⟩ := other
      subst answers
      cases answer with
      | ok done => exact ⟨rfl, after⟩
      | error fault => exact ⟨rfl, after⟩
    · rw [if_neg wanted, if_neg wanted]
      exact ⟨rfl, related⟩
  | note => exact ⟨rfl, agree.note stanza faults s t related⟩
  | ignore => exact ⟨rfl, related⟩
  | fail fault => exact ⟨rfl, related⟩
  | crash => exact ⟨rfl, related⟩

mutual

theorem tryAll_agree (agree : f.Agree g Related) {s : σ} {t : τ} (related : Related s t) :
    (e : Escalation) →
    (tryAll f stanza faults e s).1 = (tryAll g stanza faults e t).1 ∧
      Related (tryAll f stanza faults e s).2 (tryAll g stanza faults e t).2
  | .single remedy => by
    simpa only [tryAll] using tryRemedy_agree stanza faults agree remedy related
  | .chain parts => by
    simpa only [tryAll] using tryEach_agree agree related parts

theorem tryEach_agree (agree : f.Agree g Related) {s : σ} {t : τ} (related : Related s t) :
    (parts : List Escalation) →
    (tryEach f stanza faults parts s).1 = (tryEach g stanza faults parts t).1 ∧
      Related (tryEach f stanza faults parts s).2 (tryEach g stanza faults parts t).2
  | [] => ⟨rfl, related⟩
  | part :: rest => by
    obtain ⟨endings, after⟩ := tryAll_agree agree related part
    simp only [tryEach]
    generalize tryAll f stanza faults part s = first at endings after ⊢
    generalize tryAll g stanza faults part t = second at endings after ⊢
    obtain ⟨ending, s'⟩ := first
    obtain ⟨same, t'⟩ := second
    subst endings
    cases ending with
    | done => exact tryEach_agree agree after rest
    | fault cause => exact ⟨rfl, after⟩
    | crashed => exact ⟨rfl, after⟩

end

end Agreement

theorem bounces_chain_cons (part : Escalation) (rest : List Escalation) :
    (chain (part :: rest)).bounces = part.bounces + (chain rest).bounces := by
  simp [bounces, remedies, remediesOfAll]

/-- Of what is left to spend, a reply costs one, and nothing else costs anything. -/
structure Facilities.Spends (f : Facilities σ) (stanza : Stanza) (faults : List Fault)
    (Holds : Nat → σ → Prop) : Prop where
  send : ∀ destination reply, Bounce.reply? stanza faults = some (destination, reply) →
    ∀ left s, Holds (left + 1) s → Holds left (f.send destination reply s).2
  keep : ∀ left s, Holds left s → Holds left (f.keep stanza s).2
  note : ∀ left s, Holds left s → Holds left (f.note stanza faults s)
  less : ∀ left s, Holds (left + 1) s → Holds left s

section Spending

variable {f : Facilities σ} {stanza : Stanza} {faults : List Fault} {Holds : Nat → σ → Prop}

theorem Facilities.Spends.of_add (spends : f.Spends stanza faults Holds) (left : Nat) (s : σ)
    (more : Nat) (holds : Holds (left + more) s) : Holds left s := by
  induction more with
  | zero => exact holds
  | succ n ih => exact ih (spends.less _ s holds)

theorem tryRemedy_spends (spends : f.Spends stanza faults Holds) (remedy : Remedy) (left : Nat)
    (s : σ) (holds : Holds (left + (single remedy).bounces) s) :
    Holds left (tryRemedy f stanza faults remedy s).2 := by
  cases remedy with
  | bounce =>
    simp only [tryRemedy, bounce]
    cases call : Bounce.reply? stanza faults with
    | none => exact spends.less left s holds
    | some found => exact spends.send found.1 found.2 call left s holds
  | storeOffline =>
    simp only [tryRemedy, storeOffline]
    by_cases wanted : wantsKeeping stanza faults = true
    · have after := spends.keep left s holds
      rw [if_pos wanted]
      generalize f.keep stanza s = kept at after ⊢
      obtain ⟨answer, s'⟩ := kept
      cases answer with
      | ok done => exact after
      | error fault => exact after
    · rw [if_neg wanted]
      exact holds
  | note => exact spends.note left s holds
  | ignore => exact holds
  | fail fault => exact holds
  | crash => exact holds

mutual

theorem tryAll_spends (spends : f.Spends stanza faults Holds) (left : Nat) (s : σ) :
    (e : Escalation) → Holds (left + e.bounces) s → Holds left (tryAll f stanza faults e s).2
  | .single remedy, holds => by
    simpa only [tryAll] using tryRemedy_spends spends remedy left s holds
  | .chain parts, holds => by
    simpa only [tryAll] using tryEach_spends spends left s parts holds

theorem tryEach_spends (spends : f.Spends stanza faults Holds) (left : Nat) (s : σ) :
    (parts : List Escalation) → Holds (left + (chain parts).bounces) s →
      Holds left (tryEach f stanza faults parts s).2
  | [], holds => holds
  | part :: rest, holds => by
    rw [bounces_chain_cons, Nat.add_comm part.bounces, ← Nat.add_assoc] at holds
    have after := tryAll_spends spends (left + (chain rest).bounces) s part holds
    simp only [tryEach]
    generalize tryAll f stanza faults part s = first at after ⊢
    obtain ⟨ending, s'⟩ := first
    -- What the rest of the chain does not come to spend is left over.
    have unspent := spends.of_add left s' (chain rest).bounces after
    cases ending with
    | done => exact tryEach_spends spends left s' rest after
    | fault cause => exact unspent
    | crashed => exact unspent

end

end Spending

theorem tryAll_preserves {f : Facilities σ} {stanza : Stanza} {faults : List Fault}
    {Holds : σ → Prop}
    (send : ∀ destination reply, Bounce.reply? stanza faults = some (destination, reply) →
      ∀ s, Holds s → Holds (f.send destination reply s).2)
    (keep : ∀ s, Holds s → Holds (f.keep stanza s).2)
    (note : ∀ s, Holds s → Holds (f.note stanza faults s)) (e : Escalation) {s : σ}
    (holds : Holds s) : Holds (tryAll f stanza faults e s).2 := by
  have spends : f.Spends stanza faults fun _ => Holds :=
    ⟨fun destination reply call _ => send destination reply call, fun _ => keep, fun _ => note,
      fun _ _ same => same⟩
  exact tryAll_spends spends 0 s e holds

inductive Deed
  | sent (destination : Address) (reply : Stanza) (answer : Except Fault Unit)
  | kept (stanza : Stanza) (answer : Except StorageFault Unit)
  | noted (stanza : Stanza) (faults : List Fault)

def Deed.isSent : Deed → Bool
  | .sent _ _ _ => true
  | _ => false

def Deed.Fits (stanza : Stanza) (faults : List Fault) : Deed → Prop
  | .sent destination reply _ => Bounce.reply? stanza faults = some (destination, reply)
  | .kept held _ => held = stanza
  | .noted known found => known = stanza ∧ found = faults

def Facilities.recorded (f : Facilities σ) : Facilities (σ × List Deed) where
  send destination reply s :=
    let (answer, after) := f.send destination reply s.1
    (answer, after, s.2 ++ [.sent destination reply answer])
  keep stanza s :=
    let (answer, after) := f.keep stanza s.1
    (answer, after, s.2 ++ [.kept stanza answer])
  note stanza faults s := (f.note stanza faults s.1, s.2 ++ [.noted stanza faults])

def deeds (f : Facilities σ) (stanza : Stanza) (faults : List Fault) (e : Escalation) (s : σ) :
    List Deed :=
  (tryAll f.recorded stanza faults e (s, [])).2.2

theorem tryAll_recorded (f : Facilities σ) (stanza : Stanza) (faults : List Fault)
    (e : Escalation) (s : σ) :
    tryAll f.recorded stanza faults e (s, []) =
      ((tryAll f stanza faults e s).1, (tryAll f stanza faults e s).2,
        deeds f stanza faults e s) := by
  have agree : f.recorded.Agree f fun recorded s => recorded.1 = s := by
    refine ⟨?_, ?_, ?_⟩
    · rintro destination reply recorded s rfl
      exact ⟨rfl, rfl⟩
    · rintro stanza recorded s rfl
      exact ⟨rfl, rfl⟩
    · rintro stanza faults recorded s rfl
      rfl
  obtain ⟨ending, after⟩ := tryAll_agree stanza faults agree rfl e
  exact Prod.ext ending (Prod.ext after rfl)

/-- To show something of the deeds of an escalation and of the state after it, show that
every call keeps it. The count is of the replies that may still be sent. -/
theorem deeds_spend {f : Facilities σ} {stanza : Stanza} {faults : List Fault}
    {Holds : Nat → σ × List Deed → Prop} (spends : f.recorded.Spends stanza faults Holds)
    (e : Escalation) (s : σ) (holds : Holds e.bounces (s, [])) :
    Holds 0 ((tryAll f stanza faults e s).2, deeds f stanza faults e s) := by
  have after := tryAll_spends spends 0 (s, []) e (by rwa [Nat.zero_add])
  rwa [tryAll_recorded] at after

theorem deeds_fit (f : Facilities σ) (stanza : Stanza) (faults : List Fault) (e : Escalation)
    (s : σ) :
    (deeds f stanza faults e s).countP Deed.isSent ≤ e.bounces ∧
      ∀ deed ∈ deeds f stanza faults e s, deed.Fits stanza faults := by
  have spends : f.recorded.Spends stanza faults fun left recorded =>
      recorded.2.countP Deed.isSent + left ≤ e.bounces ∧
        ∀ deed ∈ recorded.2, deed.Fits stanza faults := by
    refine ⟨?_, ?_, ?_, ?_⟩
    · rintro destination reply call left ⟨s, before⟩ ⟨few, fit⟩
      refine ⟨?_, List.forall_mem_append.2 ⟨fit, List.forall_mem_singleton.2 call⟩⟩
      simp only [Facilities.recorded, List.countP_append, List.countP_singleton, Deed.isSent,
        if_true]
      dsimp only at few
      omega
    · rintro left ⟨s, before⟩ ⟨few, fit⟩
      refine ⟨?_, List.forall_mem_append.2 ⟨fit, List.forall_mem_singleton.2 rfl⟩⟩
      simpa [Facilities.recorded, Deed.isSent] using few
    · rintro left ⟨s, before⟩ ⟨few, fit⟩
      refine ⟨?_, List.forall_mem_append.2 ⟨fit, List.forall_mem_singleton.2 ⟨rfl, rfl⟩⟩⟩
      simpa [Facilities.recorded, Deed.isSent] using few
    · rintro left recorded ⟨few, fit⟩
      exact ⟨by omega, fit⟩
  have after := deeds_spend spends e s ⟨by simp, List.forall_mem_nil _⟩
  exact ⟨by simpa using after.1, after.2⟩

theorem bounce_reply (f : Facilities σ) (stanza : Stanza) (sender : Address)
    (error : Stanza.Error) (faults : List Fault) (s : σ) :
    bounce f (Bounce.reply stanza sender error) faults s = (.done, s) := by
  rw [bounce, Bounce.reply?_of_reply]

end StanzaDelivery.Escalation
