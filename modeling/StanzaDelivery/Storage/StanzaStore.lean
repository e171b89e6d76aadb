import StanzaDelivery.Fault
import StanzaDelivery.Stanza

/-! A store of stanzas by account, with a limit for each account. All accounts share one
list in order of arrival; what an account holds is its part of that list. A stanza is
kept under its own recipient. -/

namespace StanzaDelivery

structure StoredStanza where
  account : BareAddress
  stanza : Stanza
  /-- Whether the stanza was relayed before; if not, it waits for the account. -/
  viewed : Bool
  deriving DecidableEq, Repr

def StoredStanza.belongsTo (s : StoredStanza) (account : BareAddress) : Bool :=
  s.account.text == account.text

structure StanzaStore where
  limit : Nat
  stored : List StoredStanza
  deriving DecidableEq, Repr

namespace StanzaStore

def empty (limit : Nat) : StanzaStore := ⟨limit, []⟩

/-- What the account holds, oldest first. -/
def heldBy (s : StanzaStore) (account : BareAddress) : List StoredStanza :=
  s.stored.filter (·.belongsTo account)

def size (s : StanzaStore) : Nat := s.stored.length

def insert (s : StanzaStore) (stanza : Stanza) (viewed : Bool) :
    Except StorageFault Unit × StanzaStore :=
  match stanza.recipient with
  | none => (.error .noDestination, s)
  | some recipient =>
    if (s.heldBy recipient.bare).length < s.limit then
      (.ok (), { s with stored := s.stored ++ [⟨recipient.bare, stanza, viewed⟩] })
    else (.error (.quotaExceeded recipient.bare.text), s)

/-- Keeps a stanza until its account asks for it. -/
def receive (s : StanzaStore) (stanza : Stanza) : Except StorageFault Unit × StanzaStore :=
  s.insert stanza false

def isPendingFor (account : BareAddress) (s : StoredStanza) : Bool :=
  s.belongsTo account && !s.viewed

/-- Takes out the stanzas that wait for the account. -/
def drainPending (s : StanzaStore) (account : BareAddress) : List Stanza × StanzaStore :=
  ((s.stored.filter (isPendingFor account)).map (·.stanza),
    { s with stored := s.stored.filter fun entry => !isPendingFor account entry })

theorem heldBy_insert (s : StanzaStore) (stanza : Stanza) (viewed : Bool) (recipient : Address)
    (account : BareAddress) (addressed : stanza.recipient = some recipient)
    (room : (s.heldBy recipient.bare).length < s.limit) :
    (s.insert stanza viewed).2.heldBy account = s.heldBy account ++
      if recipient.bare.text = account.text then [⟨recipient.bare, stanza, viewed⟩] else [] := by
  have grown : (s.insert stanza viewed).2 =
      { s with stored := s.stored ++ [⟨recipient.bare, stanza, viewed⟩] } := by
    simp [insert, addressed, room]
  simp [grown, heldBy, List.filter_cons, StoredStanza.belongsTo]

end StanzaStore
end StanzaDelivery
