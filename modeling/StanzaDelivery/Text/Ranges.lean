/-! Sets of characters given by ranges of code points. -/

namespace StanzaDelivery.Text

/-- Ranges of code points, both ends included. -/
abbrev Ranges := List (Nat × Nat)

namespace Ranges

def holds (ranges : Ranges) (c : Char) : Bool :=
  ranges.any fun range => range.1 ≤ c.toNat && c.toNat ≤ range.2

/-- Whether the ranges stand in order and apart from each other. -/
def inOrder : Ranges → Bool
  | [] => true
  | [range] => range.1 ≤ range.2
  | range :: next :: rest =>
    range.1 ≤ range.2 && range.2 + 1 < next.1 && inOrder (next :: rest)

end Ranges
end StanzaDelivery.Text
