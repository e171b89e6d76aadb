/-! The error payload of a stanza: what the sender may do about it, one of the defined
conditions, and explanations by language. -/

namespace StanzaDelivery.Stanza

inductive ErrorType
  | auth
  | cancel
  | continue
  | modify
  | wait
  deriving DecidableEq, Repr

def ErrorType.all : List ErrorType := [.auth, .cancel, .continue, .modify, .wait]

def ErrorType.name : ErrorType → String
  | .auth => "auth"
  | .cancel => "cancel"
  | .continue => "continue"
  | .modify => "modify"
  | .wait => "wait"

def ErrorType.ofName? (name : String) : Option ErrorType :=
  ErrorType.all.find? (·.name == name)

inductive Condition
  | badRequest
  | conflict
  | featureNotImplemented
  | forbidden
  | gone
  | internalServerError
  | itemNotFound
  | jidMalformed
  | notAcceptable
  | notAllowed
  | notAuthorized
  | policyViolation
  | recipientUnavailable
  | redirect
  | registrationRequired
  | remoteServerNotFound
  | remoteServerTimeout
  | resourceConstraint
  | serviceUnavailable
  | subscriptionRequired
  | undefinedCondition
  | unexpectedRequest
  deriving DecidableEq, Repr

def Condition.all : List Condition :=
  [.badRequest, .conflict, .featureNotImplemented, .forbidden, .gone, .internalServerError,
    .itemNotFound, .jidMalformed, .notAcceptable, .notAllowed, .notAuthorized, .policyViolation,
    .recipientUnavailable, .redirect, .registrationRequired, .remoteServerNotFound,
    .remoteServerTimeout, .resourceConstraint, .serviceUnavailable, .subscriptionRequired,
    .undefinedCondition, .unexpectedRequest]

def Condition.name : Condition → String
  | .badRequest => "bad-request"
  | .conflict => "conflict"
  | .featureNotImplemented => "feature-not-implemented"
  | .forbidden => "forbidden"
  | .gone => "gone"
  | .internalServerError => "internal-server-error"
  | .itemNotFound => "item-not-found"
  | .jidMalformed => "jid-malformed"
  | .notAcceptable => "not-acceptable"
  | .notAllowed => "not-allowed"
  | .notAuthorized => "not-authorized"
  | .policyViolation => "policy-violation"
  | .recipientUnavailable => "recipient-unavailable"
  | .redirect => "redirect"
  | .registrationRequired => "registration-required"
  | .remoteServerNotFound => "remote-server-not-found"
  | .remoteServerTimeout => "remote-server-timeout"
  | .resourceConstraint => "resource-constraint"
  | .serviceUnavailable => "service-unavailable"
  | .subscriptionRequired => "subscription-required"
  | .undefinedCondition => "undefined-condition"
  | .unexpectedRequest => "unexpected-request"

def Condition.ofName? (name : String) : Option Condition :=
  Condition.all.find? (·.name == name)

structure Error where
  type : ErrorType
  condition : Condition
  texts : List (String × String)
  deriving DecidableEq, Repr

end StanzaDelivery.Stanza
