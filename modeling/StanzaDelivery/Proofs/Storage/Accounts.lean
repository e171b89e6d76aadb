import StanzaDelivery.Proofs.Storage.Ledger

/-! What a store holds for one account. Whether an insert is accepted depends on the list of the
account that the stanza is for, and no other list is changed by it. -/

namespace StanzaDelivery.StanzaStore

variable {s t u : StanzaStore} {account other : String}

structure AgreeOn (account : String) (s t : StanzaStore) : Prop where
  limit : t.limit = s.limit
  held : t.ledger.held account = s.ledger.held account

structure AgreeOff (account : String) (s t : StanzaStore) : Prop where
  limit : t.limit = s.limit
  held : ∀ other, other ≠ account → t.ledger.held other = s.ledger.held other

theorem AgreeOn.symm (agree : s.AgreeOn account t) : t.AgreeOn account s :=
  ⟨agree.limit.symm, agree.held.symm⟩

theorem AgreeOn.trans (first : s.AgreeOn account t) (second : t.AgreeOn account u) :
    s.AgreeOn account u :=
  ⟨second.limit.trans first.limit, second.held.trans first.held⟩

theorem AgreeOff.refl (account : String) (s : StanzaStore) : s.AgreeOff account s :=
  ⟨rfl, fun _ _ => rfl⟩

theorem AgreeOff.trans (first : s.AgreeOff account t) (second : t.AgreeOff account u) :
    s.AgreeOff account u := by
  refine ⟨second.limit.trans first.limit, ?_⟩
  intro other apart
  rw [second.held other apart, first.held other apart]

theorem AgreeOff.on (agree : s.AgreeOff account t) (apart : other ≠ account) :
    s.AgreeOn other t :=
  ⟨agree.limit, agree.held other apart⟩

theorem AgreeOff.ledger_eq {first second x y : StanzaStore} (one : s.AgreeOff account first)
    (another : first.AgreeOff other x) (other' : s.AgreeOff other second)
    (one' : second.AgreeOff account y) (agree : x.AgreeOn account y) (also : x.AgreeOn other y) :
    x.ledger = y.ledger := by
  refine Ledger.ext (funext fun holder => ?_)
  by_cases here : holder = account
  · rw [here, agree.held]
  by_cases there : holder = other
  · rw [there, also.held]
  rw [another.held holder there, one.held holder here, one'.held holder here,
    other'.held holder there]

def IsFor (account : String) (stanza : Stanza) : Prop :=
  ∀ recipient, stanza.recipient = some recipient → recipient.bare.text = account

theorem insert_ledger (s : StanzaStore) (stanza : Stanza) (viewed : Bool) :
    (s.insert stanza viewed).1 = (s.ledger.insert s.limit ⟨stanza, viewed⟩).1 ∧
      (s.insert stanza viewed).2.limit = s.limit ∧
      (s.insert stanza viewed).2.ledger = (s.ledger.insert s.limit ⟨stanza, viewed⟩).2 :=
  standsFor_insert ⟨rfl, rfl⟩ ⟨stanza, viewed⟩

theorem AgreeOn.insert {stanza : Stanza} (agree : s.AgreeOn account t)
    (own : IsFor account stanza) (viewed : Bool) :
    (t.insert stanza viewed).1 = (s.insert stanza viewed).1 ∧
      (s.insert stanza viewed).2.AgreeOn account (t.insert stanza viewed).2 := by
  obtain ⟨limit, held⟩ := agree
  obtain ⟨answer, kept, entered⟩ := s.insert_ledger stanza viewed
  obtain ⟨answer', kept', entered'⟩ := t.insert_ledger stanza viewed
  have alike : (t.ledger.insert t.limit ⟨stanza, viewed⟩).1 =
        (s.ledger.insert s.limit ⟨stanza, viewed⟩).1 ∧
      (t.ledger.insert t.limit ⟨stanza, viewed⟩).2.held account =
        (s.ledger.insert s.limit ⟨stanza, viewed⟩).2.held account := by
    unfold Ledger.insert
    cases addressed : stanza.recipient with
    | none => exact ⟨rfl, held⟩
    | some recipient =>
      simp only [own recipient addressed, limit, held]
      split
      · exact ⟨rfl, by simp [Ledger.held_set]⟩
      · exact ⟨rfl, held⟩
  refine ⟨by rw [answer, answer', alike.1], by rw [kept, kept', limit], ?_⟩
  rw [entered, entered']
  exact alike.2

theorem agreeOff_insert {stanza : Stanza} (own : IsFor account stanza) (s : StanzaStore)
    (viewed : Bool) : s.AgreeOff account (s.insert stanza viewed).2 := by
  obtain ⟨_, limit, entered⟩ := s.insert_ledger stanza viewed
  refine ⟨limit, ?_⟩
  intro other apart
  rw [entered]
  have inserted := s.ledger.inserted_insert s.limit ⟨stanza, viewed⟩
  generalize s.ledger.insert s.limit ⟨stanza, viewed⟩ = result at inserted ⊢
  cases inserted with
  | nowhere unaddressed => rfl
  | full recipient addressed noRoom => rfl
  | entered recipient addressed room =>
    rw [Ledger.held_set, if_neg]
    rw [own recipient addressed]
    exact apart

end StanzaDelivery.StanzaStore
