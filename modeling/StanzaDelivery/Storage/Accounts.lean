import StanzaDelivery.Address
import StanzaDelivery.Fault

/-! The accounts that exist, and whether they can be looked up at all. -/

namespace StanzaDelivery

structure Accounts where
  known : List BareAddress
  /-- Why every look-up fails, if it does. -/
  outage : Option String
  deriving DecidableEq, Repr

namespace Accounts

def add (a : Accounts) (account : BareAddress) : Accounts :=
  { a with known := a.known ++ [account] }

def isKnown (a : Accounts) (account : BareAddress) : Bool :=
  a.known.any (·.text == account.text)

def verify (a : Accounts) (account : BareAddress) : Except StorageFault Bool :=
  match a.outage with
  | some reason => .error (.database reason)
  | none => .ok (a.isKnown account)

theorem isKnown_add (a : Accounts) (account other : BareAddress) :
    (a.add account).isKnown other = (a.isKnown other || account.text == other.text) := by
  simp [add, isKnown]

end Accounts
end StanzaDelivery
