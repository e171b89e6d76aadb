import Mathlib.Algebra.BigOperators.Group.Finset.Basic
import StanzaDelivery.Storage.StanzaStore

/-! A stanza store against the ledger it stands for: a list of kept stanzas for every
account. The store holds all lists in one, in order of arrival, and looks an account up by
filtering; so it has to be shown that an insert or a drain of one account acts on that
account's list alone. The two are put side by side on any sequence of requests. What an
account was given is then followed through the exchanges on the ledger: at every moment, what
the account's drains have returned, and after it what still waits, is what was accepted for it. -/

namespace StanzaDelivery

structure Kept where
  stanza : Stanza
  viewed : Bool
  deriving DecidableEq, Repr

def StoredStanza.kept (s : StoredStanza) : Kept := ⟨s.stanza, s.viewed⟩

inductive StoreRequest
  | receive (stanza : Stanza)
  | store (stanza : Stanza) (viewed : Bool)
  | drain (account : BareAddress)
  deriving DecidableEq, Repr

inductive StoreAnswer
  | inserted (result : Except StorageFault Unit)
  | drained (stanzas : List Stanza)

def Kept.account? (entry : Kept) : Option String :=
  entry.stanza.recipient.map (·.bare.text)

def StoreRequest.entry? : StoreRequest → Option Kept
  | .receive stanza => some ⟨stanza, false⟩
  | .store stanza viewed => some ⟨stanza, viewed⟩
  | .drain _ => none

abbrev Exchange := StoreRequest × StoreAnswer

namespace StoreRequest

variable {S : Type}

def serveAll (serve : StoreRequest → S → StoreAnswer × S) :
    List StoreRequest → S → List Exchange × S
  | [], state => ([], state)
  | request :: rest, state =>
    let (answer, state) := serve request state
    let (exchanges, state) := serveAll serve rest state
    ((request, answer) :: exchanges, state)

theorem serveAll_related {T : Type} {related : S → T → Prop}
    {serveS : StoreRequest → S → StoreAnswer × S} {serveT : StoreRequest → T → StoreAnswer × T}
    (one : ∀ request s t, related s t →
      (serveS request s).1 = (serveT request t).1 ∧
        related (serveS request s).2 (serveT request t).2)
    (requests : List StoreRequest) (s : S) (t : T) (start : related s t) :
    (serveAll serveS requests s).1 = (serveAll serveT requests t).1 ∧
      related (serveAll serveS requests s).2 (serveAll serveT requests t).2 := by
  induction requests generalizing s t with
  | nil => exact ⟨rfl, start⟩
  | cons request rest ih =>
    obtain ⟨answers, next⟩ := one request s t start
    obtain ⟨exchanges, last⟩ := ih _ _ next
    exact ⟨by simp only [serveAll, answers, exchanges], last⟩

end StoreRequest

/-- What every account holds, by the way the account is written. -/
@[ext]
structure Ledger where
  held : String → List Kept

namespace Ledger

def empty : Ledger := ⟨fun _ => []⟩

def set (ledger : Ledger) (account : String) (entries : List Kept) : Ledger :=
  ⟨fun other => if other = account then entries else ledger.held other⟩

def insert (limit : Nat) (entry : Kept) (ledger : Ledger) : Except StorageFault Unit × Ledger :=
  match entry.stanza.recipient with
  | none => (.error .noDestination, ledger)
  | some recipient =>
    let account := recipient.bare.text
    if (ledger.held account).length < limit then
      (.ok (), ledger.set account (ledger.held account ++ [entry]))
    else (.error (.quotaExceeded account), ledger)

/-- The stanzas with this mark; those that are not viewed wait for their account. -/
def marked (viewed : Bool) (entries : List Kept) : List Stanza :=
  (entries.filter (·.viewed == viewed)).map (·.stanza)

def drain (account : String) (ledger : Ledger) : List Stanza × Ledger :=
  (marked false (ledger.held account),
    ledger.set account ((ledger.held account).filter (·.viewed)))

def serve (limit : Nat) (request : StoreRequest) (ledger : Ledger) : StoreAnswer × Ledger :=
  match request with
  | .receive stanza => Prod.map .inserted id (ledger.insert limit ⟨stanza, false⟩)
  | .store stanza viewed => Prod.map .inserted id (ledger.insert limit ⟨stanza, viewed⟩)
  | .drain account => Prod.map .drained id (ledger.drain account.text)

theorem held_set (ledger : Ledger) (account other : String) (entries : List Kept) :
    (ledger.set account entries).held other =
      if other = account then entries else ledger.held other := rfl

inductive Inserted (limit : Nat) (ledger : Ledger) (entry : Kept) :
    Except StorageFault Unit × Ledger → Prop
  | nowhere (unaddressed : entry.stanza.recipient = none) :
    Inserted limit ledger entry (.error .noDestination, ledger)
  | full (recipient : Address) (addressed : entry.stanza.recipient = some recipient)
      (noRoom : limit ≤ (ledger.held recipient.bare.text).length) :
    Inserted limit ledger entry (.error (.quotaExceeded recipient.bare.text), ledger)
  | entered (recipient : Address) (addressed : entry.stanza.recipient = some recipient)
      (room : (ledger.held recipient.bare.text).length < limit) :
    Inserted limit ledger entry
      (.ok (), ledger.set recipient.bare.text (ledger.held recipient.bare.text ++ [entry]))

theorem inserted_insert (limit : Nat) (entry : Kept) (ledger : Ledger) :
    Inserted limit ledger entry (ledger.insert limit entry) := by
  unfold insert
  cases addressed : entry.stanza.recipient with
  | none => exact .nowhere addressed
  | some recipient =>
    by_cases room : (ledger.held recipient.bare.text).length < limit
    · simp only [if_pos room]
      exact .entered recipient addressed room
    · simp only [if_neg room]
      exact .full recipient addressed (Nat.le_of_not_lt room)

def Within (limit : Nat) (ledger : Ledger) : Prop := ∀ account, (ledger.held account).length ≤ limit

theorem Within.inserted {limit : Nat} {ledger : Ledger} {entry : Kept}
    {result : Except StorageFault Unit × Ledger} (within : ledger.Within limit)
    (inserted : Inserted limit ledger entry result) : result.2.Within limit := by
  cases inserted with
  | nowhere => exact within
  | full => exact within
  | entered recipient addressed room =>
    intro account
    rw [held_set]
    split
    · rw [List.length_append, List.length_singleton]
      omega
    · exact within account

theorem Within.drain {limit : Nat} {ledger : Ledger} (within : ledger.Within limit)
    (account : String) : (ledger.drain account).2.Within limit := by
  intro other
  rw [Ledger.drain, held_set]
  split
  · exact Nat.le_trans (List.length_filter_le ..) (within account)
  · exact within other

theorem Within.serve {limit : Nat} {ledger : Ledger} (within : ledger.Within limit)
    (request : StoreRequest) : (ledger.serve limit request).2.Within limit := by
  cases request with
  | receive stanza => exact within.inserted (inserted_insert limit ⟨stanza, false⟩ ledger)
  | store stanza viewed => exact within.inserted (inserted_insert limit ⟨stanza, viewed⟩ ledger)
  | drain account => exact within.drain account.text

def accepted? (account : String) : Exchange → Option Kept
  | (request, .inserted (.ok ())) => request.entry?.filter (·.account? = some account)
  | _ => none

def acceptedFor (account : String) (exchanges : List Exchange) : List Kept :=
  exchanges.filterMap (accepted? account)

def returned (account : String) : Exchange → List Stanza
  | (.drain drained, .drained stanzas) => if drained.text = account then stanzas else []
  | _ => []

def returnedTo (account : String) (exchanges : List Exchange) : List Stanza :=
  exchanges.flatMap (returned account)

theorem marked_append (viewed : Bool) (entries more : List Kept) :
    marked viewed (entries ++ more) = marked viewed entries ++ marked viewed more := by
  simp [marked]

theorem acceptedFor_append (account : String) (earlier later : List Exchange) :
    acceptedFor account (earlier ++ later) =
      acceptedFor account earlier ++ acceptedFor account later :=
  List.filterMap_append

theorem returnedTo_append (account : String) (earlier later : List Exchange) :
    returnedTo account (earlier ++ later) =
      returnedTo account earlier ++ returnedTo account later :=
  List.flatMap_append

/-- What waited and what was accepted since to wait has been returned, or waits still, in
order; what was kept as viewed is kept. -/
structure Keeps (account : String) (before : List Kept) (exchanges : List Exchange)
    (after : List Kept) : Prop where
  waiting : returnedTo account exchanges ++ marked false after =
    marked false before ++ marked false (acceptedFor account exchanges)
  viewed : marked true after = marked true before ++ marked true (acceptedFor account exchanges)

theorem Keeps.refl (account : String) (held : List Kept) : Keeps account held [] held :=
  ⟨(List.append_nil _).symm, (List.append_nil _).symm⟩

theorem Keeps.trans {account : String} {before between after : List Kept}
    {earlier later : List Exchange} (first : Keeps account before earlier between)
    (second : Keeps account between later after) :
    Keeps account before (earlier ++ later) after := by
  constructor
  · rw [returnedTo_append, acceptedFor_append, marked_append, List.append_assoc, second.waiting,
      ← List.append_assoc, first.waiting, List.append_assoc]
  · rw [acceptedFor_append, marked_append, second.viewed, first.viewed, List.append_assoc]

theorem Keeps.untouched {account : String} {exchange : Exchange}
    (brought : accepted? account exchange = none) (taken : returned account exchange = [])
    (held : List Kept) : Keeps account held [exchange] held := by
  have accepted : acceptedFor account [exchange] = [] := by simp [acceptedFor, brought]
  have returned : returnedTo account [exchange] = [] := by simp [returnedTo, taken]
  constructor
  · rw [accepted, returned]
    exact (List.append_nil _).symm
  · rw [accepted]
    exact (List.append_nil _).symm

theorem keeps_inserted {limit : Nat} {ledger : Ledger} {entry : Kept}
    {result : Except StorageFault Unit × Ledger} {request : StoreRequest}
    (asked : request.entry? = some entry) (inserted : Inserted limit ledger entry result)
    (account : String) :
    Keeps account (ledger.held account) [(request, .inserted result.1)]
      (result.2.held account) := by
  have taken : ∀ answer, returned account (request, .inserted answer) = [] := by
    intro answer
    cases request <;> rfl
  cases inserted with
  | nowhere => exact .untouched rfl (taken _) _
  | full => exact .untouched rfl (taken _) _
  | entered recipient addressed room =>
    have key : entry.account? = some recipient.bare.text := by simp [Kept.account?, addressed]
    by_cases own : account = recipient.bare.text
    · subst own
      have brought : accepted? recipient.bare.text (request, .inserted (.ok ())) = some entry := by
        simp [accepted?, asked, key]
      constructor
      · simp [acceptedFor, brought, held_set, marked_append, returnedTo, taken]
      · simp [acceptedFor, brought, held_set, marked_append]
    · have elsewhere : accepted? account (request, .inserted (.ok ())) = none := by
        simp [accepted?, asked, key, Ne.symm own]
      rw [held_set, if_neg own]
      exact .untouched elsewhere (taken _) _

theorem keeps_drain (ledger : Ledger) (drained : BareAddress) (account : String) :
    Keeps account (ledger.held account)
      [(.drain drained, .drained (ledger.drain drained.text).1)]
      ((ledger.drain drained.text).2.held account) := by
  by_cases own : account = drained.text
  · subst own
    constructor
    · simp [drain, held_set, returnedTo, returned, acceptedFor, accepted?, marked,
        List.filter_filter]
    · simp [drain, held_set, acceptedFor, accepted?, marked, List.filter_filter]
  · have elsewhere :
        returned account (.drain drained, .drained (ledger.drain drained.text).1) = [] :=
      if_neg (Ne.symm own)
    rw [drain, held_set, if_neg own]
    exact .untouched rfl elsewhere _

theorem keeps_serve (limit : Nat) (request : StoreRequest) (ledger : Ledger) (account : String) :
    Keeps account (ledger.held account) [(request, (ledger.serve limit request).1)]
      ((ledger.serve limit request).2.held account) := by
  cases request with
  | receive stanza => exact keeps_inserted rfl (inserted_insert limit _ ledger) account
  | store stanza viewed => exact keeps_inserted rfl (inserted_insert limit _ ledger) account
  | drain drained => exact keeps_drain ledger drained account

theorem serveAll_sound {limit : Nat} (requests : List StoreRequest) (ledger : Ledger)
    (within : ledger.Within limit) :
    let served := StoreRequest.serveAll (serve limit) requests ledger
    served.2.Within limit ∧
      ∀ account, Keeps account (ledger.held account) served.1 (served.2.held account) := by
  induction requests generalizing ledger with
  | nil => exact ⟨within, fun account => .refl account _⟩
  | cons request rest ih =>
    obtain ⟨last, kept⟩ := ih (ledger.serve limit request).2 (within.serve request)
    exact ⟨last, fun account => (keeps_serve limit request ledger account).trans (kept account)⟩

end Ledger

namespace StanzaStore

def ledger (s : StanzaStore) : Ledger :=
  ⟨fun account => (s.stored.filter (·.account.text == account)).map StoredStanza.kept⟩

def serve (request : StoreRequest) (s : StanzaStore) : StoreAnswer × StanzaStore :=
  match request with
  | .receive stanza => Prod.map .inserted id (s.receive stanza)
  | .store stanza viewed => Prod.map .inserted id (s.insert stanza viewed)
  | .drain account => Prod.map .drained id (s.drainPending account)

theorem held_ledger (s : StanzaStore) (account : BareAddress) :
    s.ledger.held account.text = (s.heldBy account).map StoredStanza.kept := rfl

theorem ledger_append (s : StanzaStore) (entry : StoredStanza) :
    ({ s with stored := s.stored ++ [entry] } : StanzaStore).ledger =
      s.ledger.set entry.account.text (s.ledger.held entry.account.text ++ [entry.kept]) := by
  refine Ledger.ext (funext fun account => ?_)
  rw [Ledger.held_set]
  by_cases own : account = entry.account.text
  · subst own
    simp [ledger]
  · simp [ledger, own, Ne.symm own]

theorem ledger_drainPending (s : StanzaStore) (account : BareAddress) :
    (s.drainPending account).2.ledger = s.ledger.set account.text
      ((s.ledger.held account.text).filter (·.viewed)) := by
  refine Ledger.ext (funext fun other => ?_)
  rw [Ledger.held_set]
  by_cases own : other = account.text
  · subst own
    rw [if_pos rfl]
    simp only [ledger, drainPending, List.filter_filter, List.filter_map]
    refine congrArg (List.map _) (List.filter_congr fun entry _ => ?_)
    cases written : entry.account.text == account.text <;>
      simp [isPendingFor, StoredStanza.belongsTo, StoredStanza.kept, written]
  · rw [if_neg own]
    simp only [ledger, drainPending, List.filter_filter]
    refine congrArg (List.map _) (List.filter_congr fun entry _ => ?_)
    cases written : entry.account.text == other with
    | false => rfl
    | true =>
      rw [beq_iff_eq] at written
      simp [isPendingFor, StoredStanza.belongsTo, written, own]

def StandsFor (limit : Nat) (s : StanzaStore) (ledger : Ledger) : Prop :=
  s.limit = limit ∧ s.ledger = ledger

theorem standsFor_insert {limit : Nat} {s : StanzaStore} {ledger : Ledger}
    (stands : StandsFor limit s ledger) (entry : Kept) :
    (s.insert entry.stanza entry.viewed).1 = (ledger.insert limit entry).1 ∧
      StandsFor limit (s.insert entry.stanza entry.viewed).2 (ledger.insert limit entry).2 := by
  obtain ⟨rfl, rfl⟩ := stands
  unfold insert Ledger.insert
  cases addressed : entry.stanza.recipient with
  | none => exact ⟨rfl, rfl, rfl⟩
  | some recipient =>
    have room : (s.ledger.held recipient.bare.text).length = (s.heldBy recipient.bare).length := by
      rw [held_ledger, List.length_map]
    simp only [room]
    split
    · exact ⟨rfl, rfl, ledger_append s ⟨recipient.bare, entry.stanza, entry.viewed⟩⟩
    · exact ⟨rfl, rfl, rfl⟩

theorem standsFor_drain {limit : Nat} {s : StanzaStore} {ledger : Ledger}
    (stands : StandsFor limit s ledger) (account : BareAddress) :
    (s.drainPending account).1 = (ledger.drain account.text).1 ∧
      StandsFor limit (s.drainPending account).2 (ledger.drain account.text).2 := by
  obtain ⟨rfl, rfl⟩ := stands
  refine ⟨?_, rfl, ledger_drainPending s account⟩
  simp only [drainPending, Ledger.drain, Ledger.marked, ledger, List.filter_map, List.filter_filter,
    List.map_map]
  refine congrArg (List.map _) (List.filter_congr fun entry _ => ?_)
  simp [isPendingFor, StoredStanza.belongsTo, StoredStanza.kept, Bool.and_comm]

theorem standsFor_serve {limit : Nat} (request : StoreRequest) (s : StanzaStore) (ledger : Ledger)
    (stands : StandsFor limit s ledger) :
    (s.serve request).1 = (ledger.serve limit request).1 ∧
      StandsFor limit (s.serve request).2 (ledger.serve limit request).2 := by
  cases request with
  | receive stanza =>
    obtain ⟨answer, next⟩ := standsFor_insert stands ⟨stanza, false⟩
    exact ⟨congrArg StoreAnswer.inserted answer, next⟩
  | store stanza viewed =>
    obtain ⟨answer, next⟩ := standsFor_insert stands ⟨stanza, viewed⟩
    exact ⟨congrArg StoreAnswer.inserted answer, next⟩
  | drain account =>
    obtain ⟨answer, next⟩ := standsFor_drain stands account
    exact ⟨congrArg StoreAnswer.drained answer, next⟩

def holders (s : StanzaStore) : Finset String := (s.stored.map (·.account.text)).toFinset

theorem mem_holders (s : StanzaStore) (account : String) :
    account ∈ s.holders ↔ s.ledger.held account ≠ [] := by
  simp [holders, ledger]

theorem size_eq_sum (s : StanzaStore) :
    s.size = ∑ account ∈ s.holders, (s.ledger.held account).length := by
  have part (account : String) :
      (s.ledger.held account).length = (s.stored.map (·.account.text)).count account := by
    rw [ledger, List.length_map, ← List.countP_eq_length_filter, List.count, List.countP_map]
    rfl
  calc s.size = (s.stored.map (·.account.text)).length := (List.length_map ..).symm
    _ = ∑ account ∈ s.holders, (s.stored.map (·.account.text)).count account :=
        (List.sum_toFinset_count_eq_length _).symm
    _ = ∑ account ∈ s.holders, (s.ledger.held account).length :=
        Finset.sum_congr rfl fun account _ => (part account).symm

/-- Any sequence of requests is answered as the ledger answers it, and leaves every account
what the ledger leaves it. No account holds more than the limit. What was accepted for an
account to wait has been returned by its drains, in that order and once each, up to what
still waits; what was accepted as viewed is still held. The size is that of all accounts. -/
theorem serves_as_ledger (limit : Nat) (requests : List StoreRequest) :
    let served := StoreRequest.serveAll serve requests (empty limit)
    let entered := StoreRequest.serveAll (Ledger.serve limit) requests Ledger.empty
    served.1 = entered.1 ∧
      (∀ account : BareAddress,
        (served.2.heldBy account).map StoredStanza.kept = entered.2.held account.text) ∧
      (∀ account : BareAddress, (served.2.heldBy account).length ≤ limit) ∧
      (∀ account : BareAddress,
        Ledger.returnedTo account.text served.1 ++ Ledger.marked false (entered.2.held account.text)
          = Ledger.marked false (Ledger.acceptedFor account.text served.1) ∧
        Ledger.marked true (entered.2.held account.text) =
          Ledger.marked true (Ledger.acceptedFor account.text served.1)) ∧
      ∃ accounts : Finset String,
        (∀ account, account ∈ accounts ↔ entered.2.held account ≠ []) ∧
        served.2.size = ∑ account ∈ accounts, (entered.2.held account).length := by
  intro served entered
  obtain ⟨answers, last⟩ : served.1 = entered.1 ∧ StandsFor limit served.2 entered.2 :=
    StoreRequest.serveAll_related standsFor_serve requests (empty limit) .empty ⟨rfl, rfl⟩
  obtain ⟨within, keeps⟩ : entered.2.Within limit ∧ ∀ account,
      Ledger.Keeps account [] entered.1 (entered.2.held account) :=
    Ledger.serveAll_sound requests .empty fun _ => Nat.zero_le limit
  obtain ⟨-, reads⟩ := last
  have held (account : BareAddress) :
      (served.2.heldBy account).map StoredStanza.kept = entered.2.held account.text := by
    rw [← held_ledger, reads]
  refine ⟨answers, held, ?_, ?_, served.2.holders, ?_, ?_⟩
  · intro account
    rw [← List.length_map StoredStanza.kept, held]
    exact within account.text
  · intro account
    rw [answers]
    exact ⟨(keeps account.text).waiting, (keeps account.text).viewed⟩
  · intro account
    rw [mem_holders, reads]
  · rw [size_eq_sum, reads]

end StanzaStore
end StanzaDelivery
