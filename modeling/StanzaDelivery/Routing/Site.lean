import StanzaDelivery.Components
import StanzaDelivery.Session.Registry
import StanzaDelivery.Storage.Accounts
import StanzaDelivery.Storage.StanzaStore

/-! The server around a router: its sessions, accounts, stores and components. There is
a store for stanzas that wait for their account and one for copies of stanzas whose
delivery had faults; the two may be one and the same. -/

namespace StanzaDelivery

/-- The two uses of a store. -/
inductive Shelf
  | pending
  | online
  deriving DecidableEq, Repr

structure Site where
  registry : Registry
  accounts : Accounts
  pending : StanzaStore
  online : StanzaStore
  /-- Copies go to the pending store, and the online store stays unused. -/
  sharesStore : Bool
  components : Components
  deriving DecidableEq, Repr

namespace Site

def store (s : Site) (shelf : Shelf) : StanzaStore :=
  match shelf with
  | .pending => s.pending
  | .online => if s.sharesStore then s.pending else s.online

def withStore (s : Site) (shelf : Shelf) (store : StanzaStore) : Site :=
  match shelf with
  | .pending => { s with pending := store }
  | .online => if s.sharesStore then { s with pending := store } else { s with online := store }

def insert (s : Site) (shelf : Shelf) (stanza : Stanza) (viewed : Bool) :
    Except StorageFault Unit × Site :=
  let (inserted, store) := (s.store shelf).insert stanza viewed
  (inserted, s.withStore shelf store)

def drainPending (s : Site) (shelf : Shelf) (account : BareAddress) : List Stanza × Site :=
  let (drained, store) := (s.store shelf).drainPending account
  (drained, s.withStore shelf store)

@[simp] theorem store_withStore (s : Site) (shelf : Shelf) (store : StanzaStore) :
    (s.withStore shelf store).store shelf = store := by
  cases shelf with
  | pending => rfl
  | online => cases shared : s.sharesStore <;> simp [withStore, Site.store, shared]

end Site
end StanzaDelivery
