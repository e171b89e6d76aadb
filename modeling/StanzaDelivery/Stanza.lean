import StanzaDelivery.Address
import StanzaDelivery.Stanza.Error

/-! Stanzas: messages, presence and queries. Only what delivery can tell apart is kept
of a stanza: its kind, its type, its two addresses, its id, the body of a message and
an error payload. -/

namespace StanzaDelivery

namespace Stanza

inductive MessageType
  | chat
  | normal
  | groupchat
  | headline
  | error
  deriving DecidableEq, Repr

def MessageType.all : List MessageType := [.chat, .normal, .groupchat, .headline, .error]

def MessageType.name : MessageType → String
  | .chat => "chat"
  | .normal => "normal"
  | .groupchat => "groupchat"
  | .headline => "headline"
  | .error => "error"

def MessageType.ofName? (name : String) : Option MessageType :=
  MessageType.all.find? (·.name == name)

inductive PresenceType
  | available
  | error
  | probe
  | subscribe
  | subscribed
  | unavailable
  | unsubscribe
  | unsubscribed
  deriving DecidableEq, Repr

def PresenceType.all : List PresenceType :=
  [.available, .error, .probe, .subscribe, .subscribed, .unavailable, .unsubscribe, .unsubscribed]

def PresenceType.name : PresenceType → String
  | .available => "available"
  | .error => "error"
  | .probe => "probe"
  | .subscribe => "subscribe"
  | .subscribed => "subscribed"
  | .unavailable => "unavailable"
  | .unsubscribe => "unsubscribe"
  | .unsubscribed => "unsubscribed"

def PresenceType.ofName? (name : String) : Option PresenceType :=
  PresenceType.all.find? (·.name == name)

/-- What a query asks or answers; only an error answer has an error payload. -/
inductive IqPayload
  | get
  | set
  | result
  | error (error : Error)
  deriving DecidableEq, Repr

def IqPayload.name : IqPayload → String
  | .get => "get"
  | .set => "set"
  | .result => "result"
  | .error _ => "error"

structure Message where
  type : MessageType
  recipient : Option Address
  sender : Option Address
  id : Option String
  body : Option String
  error : Option Error
  deriving DecidableEq, Repr

structure Presence where
  type : PresenceType
  recipient : Option Address
  sender : Option Address
  id : Option String
  error : Option Error
  deriving DecidableEq, Repr

structure Iq where
  payload : IqPayload
  recipient : Option Address
  sender : Option Address
  id : String
  deriving DecidableEq, Repr

inductive Kind
  | message
  | presence
  | iq
  deriving DecidableEq, Repr

def Kind.all : List Kind := [.message, .presence, .iq]

def Kind.name : Kind → String
  | .message => "message"
  | .presence => "presence"
  | .iq => "iq"

end Stanza

inductive Stanza
  | message (message : Stanza.Message)
  | presence (presence : Stanza.Presence)
  | iq (iq : Stanza.Iq)
  deriving DecidableEq, Repr

namespace Stanza

def kind : Stanza → Kind
  | .message _ => .message
  | .presence _ => .presence
  | .iq _ => .iq

def recipient : Stanza → Option Address
  | .message m => m.recipient
  | .presence p => p.recipient
  | .iq q => q.recipient

def sender : Stanza → Option Address
  | .message m => m.sender
  | .presence p => p.sender
  | .iq q => q.sender

def id : Stanza → Option String
  | .message m => m.id
  | .presence p => p.id
  | .iq q => some q.id

def typeName : Stanza → String
  | .message m => m.type.name
  | .presence p => p.type.name
  | .iq q => q.payload.name

def body : Stanza → Option String
  | .message m => m.body
  | .presence _ => none
  | .iq _ => none

def error : Stanza → Option Error
  | .message m => m.error
  | .presence p => p.error
  | .iq q =>
    match q.payload with
    | .error error => some error
    | _ => none

def messageType : Stanza → Option MessageType
  | .message m => some m.type
  | .presence _ => none
  | .iq _ => none

/-- Errors and answers; these never cause an error reply. -/
def isErrorOrResponse : Stanza → Bool
  | .message m => m.type = .error
  | .presence p => p.type = .error
  | .iq q =>
    match q.payload with
    | .get => false
    | .set => false
    | .result => true
    | .error _ => true

/-- Whether the stanza may go to other resources of the account when the resource it
is addressed to has no session. -/
def permitsBareFallback : Stanza → Bool
  | .message m =>
    match m.type with
    | .chat => true
    | .normal => true
    | .headline => true
    | .groupchat => false
    | .error => false
  | .presence _ => true
  | .iq _ => false

end Stanza
end StanzaDelivery
