/-! Preparation of the parts of an address, by which they are compared. A part may turn out to
hold what this part of an address may not; then it has no prepared form. -/

namespace StanzaDelivery.Address

inductive Part
  | node
  | domain
  | resource
  deriving DecidableEq, Repr

structure Preparation where
  prepare? : Part → List Char → Option (List Char)

/-- What is relied on of a preparation: a domain in ASCII is put into small letters, and a
prepared node holds no slash. -/
structure Preparation.Lawful (p : Preparation) : Prop where
  domain_ascii : ∀ cs : List Char, (∀ c ∈ cs, c.toNat < 0x80) →
    p.prepare? .domain cs = some (cs.map Char.toLower)
  node_unslashed : ∀ cs prepared : List Char, p.prepare? .node cs = some prepared →
    '/' ∉ prepared

end StanzaDelivery.Address
