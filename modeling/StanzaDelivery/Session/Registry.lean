import StanzaDelivery.Session
import StanzaDelivery.Session.Priority

/-! The registry of sessions: every session that was ever bound, in the order of binding,
and a directory of those that are bound now. An address that is written like one already
in the directory takes over its entry. -/

namespace StanzaDelivery

/-- The number of sessions that were bound before this one. -/
abbrev SessionId := Nat

structure Registry where
  sessions : List Session
  directory : List (FullAddress × SessionId)
  deriving DecidableEq, Repr

namespace Registry

def empty : Registry := ⟨[], []⟩

/-- An entry of the directory with the session it leads to. -/
structure Entry where
  key : FullAddress
  id : SessionId
  session : Session
  deriving DecidableEq, Repr

def session? (r : Registry) (id : SessionId) : Option Session := r.sessions[id]?

def update (r : Registry) (id : SessionId) (change : Session → Session) : Registry :=
  { r with sessions := r.sessions.modify id change }

def count (r : Registry) : Nat := r.directory.length

def entry? (r : Registry) (found : FullAddress × SessionId) : Option Entry :=
  (r.session? found.2).map (Entry.mk found.1 found.2)

def entries (r : Registry) : List Entry := r.directory.filterMap r.entry?

/-- The entry whose address is written like this one. -/
def find? (r : Registry) (address : FullAddress) : Option Entry :=
  r.entries.find? (·.key.text == address.text)

/-- The directory in which this address leads to the session of this number. -/
def directoryWith (r : Registry) (address : FullAddress) (id : SessionId) :
    List (FullAddress × SessionId) :=
  if r.directory.any (·.1.text == address.text) then
    r.directory.map fun found => if found.1.text == address.text then (found.1, id) else found
  else r.directory ++ [(address, id)]

/-- Binds a new session, which takes the place of one bound to the same address. -/
def register (r : Registry) (session : Session) : SessionId × Registry :=
  (r.sessions.length,
    ⟨r.sessions ++ [session], r.directoryWith session.address r.sessions.length⟩)

/-- Removes whatever session is bound to the address now. -/
def unregister (r : Registry) (address : FullAddress) : Option Entry × Registry :=
  (r.find? address,
    { r with directory := r.directory.filter fun found => found.1.text != address.text })

/-- Lets the session of this number act, if there is one. -/
def act {α : Type} (r : Registry) (id : SessionId) (action : Session → α × Session) :
    Option (α × Registry) :=
  (r.session? id).map fun s => ((action s).1, r.update id fun _ => (action s).2)

def isStale (r : Registry) (id : SessionId) : Bool := (r.session? id).any fun s => !s.connected

/-- Removes the sessions whose connection has hung up, and says how many those are. -/
def cleanUp (r : Registry) : Nat × Registry :=
  let kept := r.directory.filter fun found => !r.isStale found.2
  (r.directory.length - kept.length, { r with directory := kept })

/-- The canonical order: descending priority, then ascending address. -/
def precedes (a b : Entry) : Bool :=
  b.session.priority < a.session.priority ||
    (a.session.priority == b.session.priority &&
      a.session.address.text ≤ b.session.address.text)

def sorted (entries : List Entry) : List Entry := entries.mergeSort precedes

def ofAccount (r : Registry) (account : BareAddress) : List Entry :=
  r.entries.filter (·.key.bare.text == account.text)

/-- The sessions of an address: all of a bare one, at most one of a full one. -/
def sessionsFor (r : Registry) (address : Address) : List Entry :=
  match address.full? with
  | some full => (r.find? full).toList
  | none => sorted (r.ofAccount address.bare)

/-- The answer to a query about the sessions of an address as they are now. -/
def query (r : Registry) (q : Priority.Query) (address : Address) : List Entry :=
  Id.run (q.run (fun entry => pure entry.session.priority) (r.sessionsFor address))

theorem query_eq (r : Registry) (q : Priority.Query) (address : Address) :
    r.query q address = Priority.candidates
      (q.choose ((r.sessionsFor address).map fun entry => (entry.session.priority, entry))) := by
  simp [query, Priority.Query.run, Priority.readAll]

@[simp] theorem sessions_register (r : Registry) (session : Session) :
    (r.register session).2.sessions = r.sessions ++ [session] := rfl

@[simp] theorem session?_register_self (r : Registry) (session : Session) :
    (r.register session).2.session? (r.register session).1 = some session := by
  simp [register, session?]

theorem session?_update (r : Registry) (id other : SessionId) (change : Session → Session) :
    (r.update id change).session? other =
      (r.session? other).map fun s => if id = other then change s else s := by
  simp [update, session?, List.getElem?_modify]

@[simp] theorem directory_update (r : Registry) (id : SessionId) (change : Session → Session) :
    (r.update id change).directory = r.directory := rfl

end Registry
end StanzaDelivery
