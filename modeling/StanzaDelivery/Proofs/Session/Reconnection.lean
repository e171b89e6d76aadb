import StanzaDelivery.Proofs.Session.Operations

/-! Connections that come back. A connection registers its address once; when it ends, it drops
its inbox and unregisters the address. While an old connection of an address is about to end, a
new one may have come already. The new one is found as long as no old one takes it away by
unregistering the address that they share. -/

namespace StanzaDelivery.Registry

/-- What happens to a server: connections come, with the number that their session gets, change
their session, which may be to hang up, and unregister an address; and a clean-up comes from
nobody. -/
inductive Step
  | connect (session : Session)
  | change (id : SessionId) (change : Session.Change)
  | leave (id : SessionId) (address : FullAddress)
  | cleanUp
  deriving DecidableEq

def Step.operation : Step → Operation
  | .connect session => .register session
  | .change id made => .change id made
  | .leave _ address => .unregister address
  | .cleanUp => .cleanUp

def operationsOf (steps : List Step) : List Operation := steps.map Step.operation

def serve (steps : List Step) : Registry := performAll (operationsOf steps)

def newcomer (steps : List Step) : SessionId := registered (operationsOf steps)

/-- Who unregisters an address has registered it before. -/
def Orderly (steps : List Step) : Prop :=
  ∀ early id address late, steps = early ++ .leave id address :: late →
    ∃ s, (serve early).session? id = some s ∧ s.address = address

variable {before after : List Step} {session : Session}

theorem operationsOf_cut (before : List Step) (session : Session) (after : List Step) :
    operationsOf (before ++ .connect session :: after) =
      operationsOf before ++ .register session :: operationsOf after := by
  rw [operationsOf, List.map_append, List.map_cons]
  rfl

theorem register_mem {steps : List Step} {s : Session}
    (member : .register s ∈ operationsOf steps) : .connect s ∈ steps := by
  obtain ⟨step, there, same⟩ := List.mem_map.1 member
  cases step <;> cases same
  exact there

theorem change_mem {steps : List Step} {id : SessionId} {change : Session.Change}
    (member : .change id change ∈ operationsOf steps) : .change id change ∈ steps := by
  obtain ⟨step, there, same⟩ := List.mem_map.1 member
  cases step <;> cases same
  exact there

theorem unregister_mem {steps : List Step} {address : FullAddress}
    (member : .unregister address ∈ operationsOf steps) : ∃ id, .leave id address ∈ steps := by
  obtain ⟨step, there, same⟩ := List.mem_map.1 member
  cases step <;> cases same
  exact ⟨_, there⟩

/-- Of the connections of an address, this one came last and has not begun to end. -/
structure Newest (before : List Step) (session : Session) (after : List Step) : Prop where
  last : ∀ s, .connect s ∈ after → s.address.text ≠ session.address.text
  connected : session.connected = true
  holds : .change (newcomer before) .hangUp ∉ after
  stays : ∀ address, .leave (newcomer before) address ∉ after

def LeavesBehind (before : List Step) (session : Session) (after : List Step) : Prop :=
  ∃ old address, .leave old address ∈ after ∧ old < newcomer before ∧
    address.text = session.address.text

theorem Newest.older (newest : Newest before session after)
    (orderly : Orderly (before ++ .connect session :: after)) {id : SessionId}
    {address : FullAddress} (leaves : .leave id address ∈ after)
    (same : address.text = session.address.text) : id < newcomer before := by
  obtain ⟨early, late, rfl⟩ := List.append_of_mem leaves
  obtain ⟨s, known, rfl⟩ := orderly (before ++ .connect session :: early) id address late (by simp)
  have other : id ≠ newcomer before := by
    rintro rfl
    exact newest.stays _ leaves
  by_contra later
  have new : registered (operationsOf before ++ [.register session]) ≤ id := by
    rw [registered, List.countP_append]
    exact Nat.lt_of_le_of_ne (Nat.not_lt.1 later) other.symm
  rw [serve, operationsOf_cut, List.append_cons] at known
  obtain ⟨t, came, address⟩ := session?_of_later known new
  exact newest.last t (List.mem_append_left _ (register_mem came)) (address ▸ same)

theorem Newest.not_hungUp (newest : Newest before session after) {ops : List Operation}
    (some : ops ⊆ operationsOf after) : ¬HungUp (newcomer before) session ops := by
  rintro (gone | hungUp)
  · exact nomatch newest.connected.symm.trans gone
  · exact newest.holds (change_mem (some hungUp))

theorem Newest.stands (newest : Newest before session after)
    (orderly : Orderly (before ++ .connect session :: after))
    (nobody : ¬LeavesBehind before session after) :
    Stands (newcomer before) session (operationsOf after) := by
  constructor
  · intro op member
    cases op with
    | register s => exact beq_eq_false_iff_ne.2 (newest.last s (register_mem member))
    | unregister address =>
      refine beq_eq_false_iff_ne.2 fun same => nobody ?_
      obtain ⟨old, leaves⟩ := unregister_mem member
      exact ⟨old, address, leaves, newest.older orderly leaves same, same⟩
    | change id change => rfl
    | cleanUp => rfl
  · intro early late parts
    exact newest.not_hungUp (parts ▸ List.subset_append_left early _)

theorem LeavesBehind.find?_eq_none (behind : LeavesBehind before session after)
    (last : ∀ s, .connect s ∈ after → s.address.text ≠ session.address.text) :
    (serve (before ++ .connect session :: after)).find? session.address = none := by
  obtain ⟨old, address, leaves, _, same⟩ := behind
  by_contra found
  obtain ⟨e, found⟩ := Option.ne_none_iff_exists'.1 found
  have leads := ((built_performAll _).consistent.leads_iff session.address).2 ⟨e, found, rfl⟩
  rw [operationsOf_cut, List.append_cons] at leads
  obtain ⟨_, stays⟩ := leads_of_later (fun s member => last s (register_mem member)) leads
  exact stays address (List.mem_map_of_mem leaves) same

/-- Whoever came last for an address and has not begun to end is found there, with its connection
alive, whatever other connections did before it came and whatever is cleaned up, as long as no
old connection of the address unregisters it now; if one does, nobody is found there. -/
theorem newest_is_found_unless_old_one_leaves (newest : Newest before session after)
    (orderly : Orderly (before ++ .connect session :: after)) :
    (¬LeavesBehind before session after →
      ∃ e, (serve (before ++ .connect session :: after)).find? session.address = some e ∧
        e.id = newcomer before ∧ e.session.address = session.address ∧
        e.session.connected = true) ∧
    (LeavesBehind before session after →
      (serve (before ++ .connect session :: after)).find? session.address = none) := by
  refine ⟨fun nobody => ?_, fun behind => behind.find?_eq_none newest.last⟩
  have consistent :=
    (built_performAll (operationsOf (before ++ .connect session :: after))).consistent
  have leads := (leads_performAll (operationsOf before) session (operationsOf after) _).2
    ⟨rfl, newest.stands orderly nobody⟩
  rw [← operationsOf_cut] at leads
  obtain ⟨e, found, number⟩ := (consistent.leads_iff session.address).1 leads
  obtain ⟨s, known, address, hungUp⟩ :=
    session?_performAll (operationsOf before) session (operationsOf after)
  have there := (mem_entries.1 ((consistent.mem_find? _ e).1 found).1).2
  rw [number, operationsOf_cut, known] at there
  cases there
  exact ⟨e, found, number, address, Bool.of_not_eq_false fun gone =>
    newest.not_hungUp (List.Subset.refl _) (hungUp.1 gone)⟩

/-- A telephone that lost its connection and comes back before the server has noticed. -/
def returning : Session :=
  ⟨⟨⟨some "alice", "waddle.social"⟩, "phone"⟩, .authenticated, 0, 16, true, []⟩

theorem newest_is_found_unless_old_one_leaves_when_cleaned_up :
    ∃ before after, Newest before returning after ∧
      Orderly (before ++ .connect returning :: after) ∧
      ∃ e, (serve (before ++ .connect returning :: after)).find? returning.address = some e ∧
        e.id = 1 := by
  let before : List Step := [.connect returning]
  let after : List Step := [.change 0 .hangUp, .cleanUp]
  have newest : Newest before returning after :=
    ⟨by simp [after], rfl, by simp [after]; decide, by simp [after]⟩
  have orderly : Orderly (before ++ .connect returning :: after) := by
    intro early id address late parts
    have leaves : .leave id address ∈ before ++ .connect returning :: after := by
      rw [parts]
      simp
    simp [before, after] at leaves
  obtain ⟨found, _⟩ := newest_is_found_unless_old_one_leaves newest orderly
  obtain ⟨e, known, number, _⟩ := found (by simp [LeavesBehind, after])
  exact ⟨before, after, newest, orderly, e, known, number⟩

/-- The first connection ends as connections do, only late: it drops its inbox and unregisters
the address. The second connection, which has not ended, is not found any more. -/
theorem newest_is_lost_when_old_one_leaves :
    ∃ before after, Newest before returning after ∧
      Orderly (before ++ .connect returning :: after) ∧
      after = [.change 0 .hangUp, .leave 0 returning.address] ∧
      (serve (before ++ .connect returning :: after)).find? returning.address = none := by
  refine ⟨[.connect returning], [.change 0 .hangUp, .leave 0 returning.address], ?_, ?_, rfl, ?_⟩
  · exact ⟨by simp, rfl, by simp; decide, by simp; decide⟩
  · intro early id address late parts
    rcases early with _ | ⟨a, _ | ⟨b, _ | ⟨c, _ | ⟨d, rest⟩⟩⟩⟩
    · simp at parts
    · simp at parts
    · simp at parts
    · simp only [List.cons_append, List.nil_append, List.cons.injEq, Step.leave.injEq] at parts
      obtain ⟨rfl, rfl, rfl, ⟨rfl, rfl⟩, rfl⟩ := parts
      exact ⟨returning.hangUp, by decide +kernel, rfl⟩
    · simp at parts
  · decide +kernel

end StanzaDelivery.Registry
