import Mathlib.Data.List.Basic
import Mathlib.Data.List.Induction
import StanzaDelivery.Proofs.Session.Directory

/-! Operating a registry. Its directory leads from each address to the session that was
registered for it last, unless that session has been removed since: then it leads nowhere,
whatever became of the sessions before. -/

namespace StanzaDelivery

namespace Session

inductive Change
  | setPriority (priority : Int8)
  | setState (state : SessionState)
  | accept (stanza : Stanza)
  | drain
  | hangUp
  deriving DecidableEq

def Change.apply : Change → Session → Session
  | .setPriority priority, s => { s with priority := priority }
  | .setState state, s => { s with state := state }
  | .accept stanza, s => (s.accept stanza).2
  | .drain, s => s.drain.2
  | .hangUp, s => s.hangUp

theorem accept_eq_or (s : Session) (stanza : Stanza) :
    s.connected = true ∧ s.accept stanza = (.ok (), s.put stanza) ∨
      ∃ fault, s.accept stanza = (.error fault, s) := by
  unfold accept
  cases s.connected <;> cases s.hasRoom <;> simp

theorem drain_eq_or (s : Session) :
    s.connected = true ∧ s.drain = (some s.inbox, { s with inbox := [] }) ∨
      s.drain = (none, s) := by
  unfold drain
  cases s.connected <;> simp

theorem Change.address_apply (change : Change) (s : Session) :
    (change.apply s).address = s.address := by
  cases change with
  | setPriority priority => rfl
  | setState state => rfl
  | accept stanza =>
    rw [apply]
    rcases s.accept_eq_or stanza with ⟨_, taken⟩ | ⟨fault, refused⟩
    · rw [taken]
      rfl
    · rw [refused]
  | drain =>
    rw [apply]
    rcases s.drain_eq_or with ⟨_, all⟩ | nothing
    · rw [all]
    · rw [nothing]
  | hangUp => rfl

theorem Change.connected_apply (change : Change) (s : Session) :
    (change.apply s).connected = (s.connected && change != .hangUp) := by
  cases change with
  | setPriority priority => simp [apply]
  | setState state => simp [apply]
  | accept stanza =>
    rw [apply]
    rcases s.accept_eq_or stanza with ⟨_, taken⟩ | ⟨fault, refused⟩
    · simp [taken, put]
    · simp [refused]
  | drain =>
    rw [apply]
    rcases s.drain_eq_or with ⟨_, all⟩ | nothing
    · simp [all]
    · simp [nothing]
  | hangUp => simp [apply, Session.hangUp]

end Session

namespace Registry

/-- Sessions are changed by their number, whether they are in the directory or not. -/
inductive Operation
  | register (session : Session)
  | unregister (address : FullAddress)
  | change (id : SessionId) (change : Session.Change)
  | cleanUp
  deriving DecidableEq

def perform (r : Registry) : Operation → Registry
  | .register session => (r.register session).2
  | .unregister address => (r.unregister address).2
  | .change id change => r.update id change.apply
  | .cleanUp => r.cleanUp.2

def performAll (ops : List Operation) : Registry := ops.foldl perform .empty

theorem performAll_concat (ops : List Operation) (op : Operation) :
    performAll (ops ++ [op]) = (performAll ops).perform op := by
  simp [performAll]

theorem built_performAll (ops : List Operation) : (performAll ops).Built := by
  induction ops using List.reverseRecOn with
  | nil => exact .empty
  | append_singleton ops op ih =>
    rw [performAll_concat]
    cases op with
    | register session => exact ih.register session
    | unregister address => exact ih.unregister address
    | change id change => exact ih.update id _ change.address_apply
    | cleanUp => exact ih.cleanUp

def Leads (r : Registry) (text : String) (id : SessionId) : Prop :=
  ∃ key, (key, id) ∈ r.directory ∧ key.text = text

variable {r : Registry} {text : String} {id : SessionId}

theorem leads_of_taken {address : FullAddress}
    (taken : r.directory.any (·.1.text == address.text) = true) (new : SessionId) :
    { r with directory := r.directoryWith address new }.Leads text id ↔
      if address.text = text then id = new else r.Leads text id := by
  simp only [Leads, directoryWith, taken, if_true]
  obtain ⟨found, there, written⟩ := List.any_eq_true.1 taken
  split
  next same =>
    constructor
    · rintro ⟨key, member, own⟩
      obtain ⟨before, _, after⟩ := List.mem_map.1 member
      split at after
      next =>
        cases after
        rfl
      next other =>
        cases after
        exact absurd (beq_iff_eq.2 (own.trans same.symm)) other
    · rintro rfl
      refine ⟨found.1, List.mem_map.2 ⟨found, there, ?_⟩, (beq_iff_eq.1 written).trans same⟩
      rw [if_pos written]
  next other =>
    refine exists_congr fun key => and_congr_left fun own => ?_
    have apart : (key.text == address.text) = false :=
      beq_eq_false_iff_ne.2 fun same => other (same.symm.trans own)
    constructor
    · intro member
      obtain ⟨before, was, after⟩ := List.mem_map.1 member
      split at after
      next same =>
        cases after
        exact absurd same (by simp [apart])
      next => exact after ▸ was
    · intro member
      refine List.mem_map.2 ⟨_, member, ?_⟩
      rw [apart]
      rfl

theorem leads_of_free {address : FullAddress}
    (free : r.directory.any (·.1.text == address.text) = false) (new : SessionId) :
    { r with directory := r.directoryWith address new }.Leads text id ↔
      if address.text = text then id = new else r.Leads text id := by
  simp only [Leads, directoryWith, free, Bool.false_eq_true, if_false]
  split
  next same =>
    constructor
    · rintro ⟨key, member, own⟩
      rcases List.mem_append.1 member with old | last
      · exact absurd (beq_iff_eq.2 (own.trans same.symm)) (List.any_eq_false.1 free _ old)
      · cases List.mem_singleton.1 last
        rfl
    · rintro rfl
      exact ⟨_, List.mem_concat_self, same⟩
  next other =>
    refine exists_congr fun key => and_congr_left fun own => ?_
    rw [List.mem_append, or_iff_left]
    intro last
    cases List.mem_singleton.1 last
    exact other own

theorem leads_register (r : Registry) (session : Session) :
    (r.register session).2.Leads text id ↔
      if session.address.text = text then id = r.sessions.length else r.Leads text id := by
  by_cases taken : r.directory.any (·.1.text == session.address.text) = true
  · exact leads_of_taken taken r.sessions.length
  · exact leads_of_free (Bool.eq_false_iff.2 taken) r.sessions.length

theorem leads_unregister (r : Registry) (address : FullAddress) :
    (r.unregister address).2.Leads text id ↔ r.Leads text id ∧ address.text ≠ text := by
  simp only [Leads, unregister, List.mem_filter, bne_iff_ne]
  constructor
  · rintro ⟨key, ⟨member, other⟩, rfl⟩
    exact ⟨⟨key, member, rfl⟩, other.symm⟩
  · rintro ⟨⟨key, member, rfl⟩, other⟩
    exact ⟨key, ⟨member, other.symm⟩, rfl⟩

theorem leads_cleanUp (r : Registry) :
    r.cleanUp.2.Leads text id ↔ r.Leads text id ∧ r.isStale id = false := by
  simp only [Leads, cleanUp, List.mem_filter, Bool.not_eq_true']
  constructor
  · rintro ⟨key, ⟨member, live⟩, rfl⟩
    exact ⟨⟨key, member, rfl⟩, live⟩
  · rintro ⟨⟨key, member, rfl⟩, live⟩
    exact ⟨key, ⟨member, live⟩, rfl⟩

theorem Consistent.leads_iff (consistent : r.Consistent) (full : FullAddress) :
    r.Leads full.text id ↔ ∃ e, r.find? full = some e ∧ e.id = id := by
  constructor
  · rintro ⟨key, member, written⟩
    obtain ⟨s, known, _⟩ := consistent.bound _ member
    exact ⟨⟨key, id, s⟩, (consistent.mem_find? full _).2 ⟨mem_entries.2 ⟨member, known⟩, written⟩,
      rfl⟩
  · rintro ⟨e, found, rfl⟩
    obtain ⟨member, written⟩ := (consistent.mem_find? full e).1 found
    exact ⟨e.key, (mem_entries.1 member).1, written⟩

theorem Consistent.id_lt (consistent : r.Consistent) (leads : r.Leads text id) :
    id < r.sessions.length := by
  obtain ⟨key, member, _⟩ := leads
  obtain ⟨s, known, _⟩ := consistent.bound _ member
  exact (List.getElem?_eq_some_iff.1 known).1

namespace Operation

def isRegister : Operation → Bool
  | .register _ => true
  | _ => false

def displaces (text : String) : Operation → Bool
  | .register session => session.address.text == text
  | .unregister address => address.text == text
  | .change _ _ => false
  | .cleanUp => false

end Operation

def registered (ops : List Operation) : Nat := ops.countP Operation.isRegister

theorem length_sessions (ops : List Operation) :
    (performAll ops).sessions.length = registered ops := by
  induction ops using List.reverseRecOn with
  | nil => rfl
  | append_singleton ops op ih =>
    rw [performAll_concat, registered, List.countP_append, ← registered, ← ih]
    cases op with
    | register session => exact List.length_append
    | unregister address => rfl
    | change id change => exact List.length_modify ..
    | cleanUp => rfl

/-- The connection of the session is gone, after these operations since it was registered. -/
def HungUp (id : SessionId) (session : Session) (after : List Operation) : Prop :=
  session.connected = false ∨ .change id .hangUp ∈ after

/-- The session that was registered under this number is still bound after these operations:
nobody was registered in its place, its address was not unregistered, and there was no clean-up
after its connection was gone. -/
structure Stands (id : SessionId) (session : Session) (after : List Operation) : Prop where
  kept : ∀ op ∈ after, op.displaces session.address.text = false
  live : ∀ early late, after = early ++ .cleanUp :: late → ¬HungUp id session early

/-- Of the sessions that were registered for the address, this is the last, and it has not been
removed since. -/
def Latest (ops : List Operation) (text : String) (id : SessionId) : Prop :=
  ∃ before session after, ops = before ++ .register session :: after ∧
    registered before = id ∧ session.address.text = text ∧ Stands id session after

section History

variable {before after : List Operation} {session : Session} {op : Operation}

theorem hungUp_concat : HungUp id session (after ++ [op]) ↔
    HungUp id session after ∨ op = .change id .hangUp := by
  rw [HungUp, HungUp, List.mem_append, List.mem_singleton, or_assoc, eq_comm (a := op)]

theorem session?_performAll (before : List Operation) (session : Session)
    (after : List Operation) :
    ∃ s, (performAll (before ++ .register session :: after)).session? (registered before) =
        some s ∧ s.address = session.address ∧
      (s.connected = false ↔ HungUp (registered before) session after) := by
  induction after using List.reverseRecOn with
  | nil =>
    refine ⟨session, ?_, rfl, by simp [HungUp]⟩
    rw [performAll_concat, ← length_sessions]
    exact session?_register_self (performAll before) session
  | append_singleton after op ih =>
    obtain ⟨s, known, address, hungUp⟩ := ih
    rw [← List.cons_append, ← List.append_assoc, performAll_concat]
    simp only [hungUp_concat, ← hungUp]
    cases op with
    | register other =>
      exact ⟨s, session?_register_of_some other known, address, by simp⟩
    | unregister other => exact ⟨s, known, address, by simp⟩
    | cleanUp => exact ⟨s, known, address, by simp⟩
    | change number change =>
      rw [perform, session?_update, known]
      by_cases own : number = registered before
      · refine ⟨change.apply s, by simp [own], (change.address_apply s).trans address, ?_⟩
        simp only [change.connected_apply, Bool.and_eq_false_iff, own, bne_eq_false_iff_eq,
          Operation.change.injEq, true_and]
      · exact ⟨s, by simp [own], address, by simp [own]⟩

theorem stands_concat : Stands id session (after ++ [op]) ↔
    Stands id session after ∧ op.displaces session.address.text = false ∧
      (op = .cleanUp → ¬HungUp id session after) := by
  constructor
  · rintro ⟨kept, live⟩
    refine ⟨⟨fun op member => kept op (List.mem_append_left _ member), ?_⟩,
      kept op List.mem_concat_self, ?_⟩
    · rintro early late rfl
      exact live early (late ++ [op]) (by simp)
    · rintro rfl
      exact live after [] rfl
  · rintro ⟨⟨kept, live⟩, last, final⟩
    refine ⟨List.forall_mem_append.2 ⟨kept, List.forall_mem_singleton.2 last⟩, ?_⟩
    intro early late parts
    rcases List.eq_nil_or_concat' late with rfl | ⟨late, other, rfl⟩
    · obtain ⟨rfl, same⟩ := List.append_inj' parts rfl
      exact final (List.singleton_inj.1 same)
    · rw [← List.cons_append, ← List.append_assoc] at parts
      exact live early late (List.append_inj' parts rfl).1

theorem stands_nil : Stands id session [] :=
  ⟨List.forall_mem_nil _, fun early late parts => by simp at parts⟩

theorem leads_performAll (before : List Operation) (session : Session) (after : List Operation)
    (text : String) :
    (performAll (before ++ .register session :: after)).Leads text (registered before) ↔
      session.address.text = text ∧ Stands (registered before) session after := by
  induction after using List.reverseRecOn with
  | nil =>
    have new : ¬(performAll before).Leads text (registered before) := fun leads =>
      absurd ((built_performAll before).consistent.id_lt leads) (by simp [length_sessions])
    rw [performAll_concat, perform, leads_register, length_sessions]
    simp [stands_nil, new]
  | append_singleton after op ih =>
    obtain ⟨s, known, _, hungUp⟩ := session?_performAll before session after
    rw [← List.cons_append, ← List.append_assoc, performAll_concat, stands_concat]
    cases op with
    | register other =>
      have older := (List.getElem?_eq_some_iff.1 known).1
      rw [perform, leads_register, ih]
      by_cases own : other.address.text = text
      · rw [if_pos own]
        constructor
        · exact fun newest => absurd newest (Nat.ne_of_lt older)
        · rintro ⟨rfl, _, apart, _⟩
          exact absurd own (beq_eq_false_iff_ne.1 apart)
      · rw [if_neg own]
        constructor
        · rintro ⟨rfl, stands⟩
          exact ⟨rfl, stands, beq_eq_false_iff_ne.2 own, nofun⟩
        · rintro ⟨same, stands, _⟩
          exact ⟨same, stands⟩
    | unregister address =>
      rw [perform, leads_unregister, ih]
      constructor
      · rintro ⟨⟨rfl, stands⟩, other⟩
        exact ⟨rfl, stands, beq_eq_false_iff_ne.2 other, nofun⟩
      · rintro ⟨rfl, stands, other, _⟩
        exact ⟨⟨rfl, stands⟩, beq_eq_false_iff_ne.1 other⟩
    | change number change =>
      refine ih.trans ⟨?_, ?_⟩
      · rintro ⟨same, stands⟩
        exact ⟨same, stands, rfl, nofun⟩
      · rintro ⟨same, stands, _⟩
        exact ⟨same, stands⟩
    | cleanUp =>
      rw [perform, leads_cleanUp, ih]
      simp [isStale, known, ← hungUp, Operation.displaces, and_assoc]

theorem exists_register {ops : List Operation} (earlier : id < registered ops) :
    ∃ before session after, ops = before ++ .register session :: after ∧
      registered before = id := by
  induction ops using List.reverseRecOn with
  | nil => cases earlier
  | append_singleton ops op ih =>
    by_cases old : id < registered ops
    · obtain ⟨before, session, after, rfl, number⟩ := ih old
      exact ⟨before, session, after ++ [op], by simp, number⟩
    · rw [registered, List.countP_append, ← registered] at earlier
      cases op with
      | register session =>
        refine ⟨ops, session, [], rfl, Nat.le_antisymm (Nat.not_lt.1 old) ?_⟩
        exact Nat.le_of_lt_succ earlier
      | unregister address => exact absurd earlier old
      | change number change => exact absurd earlier old
      | cleanUp => exact absurd earlier old

theorem session?_of_later {ops later : List Operation} {s : Session}
    (known : (performAll (ops ++ later)).session? id = some s) (new : registered ops ≤ id) :
    ∃ t, .register t ∈ later ∧ s.address = t.address := by
  induction later using List.reverseRecOn generalizing s with
  | nil =>
    have earlier := (List.getElem?_eq_some_iff.1 known).1
    rw [List.append_nil, length_sessions] at earlier
    exact absurd new (Nat.not_le.2 earlier)
  | append_singleton later op ih =>
    have before {t : Session} (known : (performAll (ops ++ later)).session? id = some t)
        (same : s.address = t.address) :
        ∃ t, .register t ∈ later ++ [op] ∧ s.address = t.address := by
      obtain ⟨first, member, address⟩ := ih known
      exact ⟨first, List.mem_append_left _ member, same.trans address⟩
    rw [← List.append_assoc, performAll_concat] at known
    cases op with
    | register session =>
      rw [perform, session?, sessions_register, List.getElem?_append] at known
      split at known
      next => exact before known rfl
      next =>
        refine ⟨session, List.mem_concat_self, ?_⟩
        cases List.mem_singleton.1 (List.mem_of_getElem? known)
        rfl
    | unregister address => exact before known rfl
    | cleanUp => exact before known rfl
    | change number change =>
      rw [perform, session?_update] at known
      obtain ⟨t, there, rfl⟩ := Option.map_eq_some_iff.1 known
      refine before there ?_
      split
      · exact change.address_apply t
      · rfl

theorem session_registered {ops : List Operation} {s : Session}
    (known : (performAll ops).session? id = some s) :
    ∃ t, .register t ∈ ops ∧ s.address = t.address :=
  @session?_of_later _ [] ops s known (Nat.zero_le _)

theorem leads_of_later {ops later : List Operation}
    (none : ∀ s, .register s ∈ later → s.address.text ≠ text)
    (leads : (performAll (ops ++ later)).Leads text id) :
    (performAll ops).Leads text id ∧
      ∀ address, .unregister address ∈ later → address.text ≠ text := by
  induction later using List.reverseRecOn with
  | nil => exact ⟨by rwa [List.append_nil] at leads, fun _ member => absurd member List.not_mem_nil⟩
  | append_singleton later op ih =>
    rw [← List.append_assoc, performAll_concat] at leads
    have step : (performAll (ops ++ later)).Leads text id ∧ op.displaces text = false := by
      cases op with
      | register session =>
        have apart := none session List.mem_concat_self
        rw [perform, leads_register, if_neg apart] at leads
        exact ⟨leads, beq_eq_false_iff_ne.2 apart⟩
      | unregister address =>
        obtain ⟨before, apart⟩ := (leads_unregister _ address).1 leads
        exact ⟨before, beq_eq_false_iff_ne.2 apart⟩
      | change number change => exact ⟨leads, rfl⟩
      | cleanUp => exact ⟨((leads_cleanUp _).1 leads).1, rfl⟩
    obtain ⟨first, stays⟩ := ih (fun s member => none s (List.mem_append_left _ member)) step.1
    refine ⟨first, fun address member => ?_⟩
    rcases List.mem_append.1 member with old | new
    · exact stays address old
    · cases List.mem_singleton.1 new
      exact beq_eq_false_iff_ne.1 step.2

theorem leads_iff_latest (ops : List Operation) (text : String) (id : SessionId) :
    (performAll ops).Leads text id ↔ Latest ops text id := by
  constructor
  · intro leads
    have earlier := (built_performAll ops).consistent.id_lt leads
    rw [length_sessions] at earlier
    obtain ⟨before, session, after, rfl, rfl⟩ := exists_register earlier
    obtain ⟨written, stands⟩ := (leads_performAll before session after text).1 leads
    exact ⟨before, session, after, rfl, rfl, written, stands⟩
  · rintro ⟨before, session, after, rfl, rfl, written, stands⟩
    exact (leads_performAll before session after text).2 ⟨written, stands⟩

end History

end Registry
end StanzaDelivery
