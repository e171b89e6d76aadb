/-! How much a bounded queue can hold. -/

namespace StanzaDelivery.Capacity

/-- The largest capacity for which a bounded queue can be made at all. -/
def largest : Nat := Nat.pow 2 61 - 1

end StanzaDelivery.Capacity
