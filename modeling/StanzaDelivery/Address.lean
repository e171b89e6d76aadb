import StanzaDelivery.Address.Tables

/-! Addresses: a domain, an optional node in front of it, and an optional resource
after it. Two addresses are the same when they are written the same; since prepared
parts may themselves hold separators, that is coarser than having the same parts. -/

namespace StanzaDelivery

structure BareAddress where
  node : Option String
  domain : String
  deriving DecidableEq, Repr, Inhabited

structure FullAddress where
  bare : BareAddress
  resource : String
  deriving DecidableEq, Repr, Inhabited

structure Address where
  bare : BareAddress
  resource : Option String
  deriving DecidableEq, Repr, Inhabited

def BareAddress.text (a : BareAddress) : String :=
  match a.node with
  | none => a.domain
  | some node => node ++ "@" ++ a.domain

def FullAddress.text (a : FullAddress) : String :=
  a.bare.text ++ "/" ++ a.resource

def BareAddress.toAddress (a : BareAddress) : Address := ⟨a, none⟩

def FullAddress.toAddress (a : FullAddress) : Address := ⟨a.bare, some a.resource⟩

namespace Address

def domain (a : Address) : String := a.bare.domain

def full? (a : Address) : Option FullAddress := a.resource.map (FullAddress.mk a.bare)

def text (a : Address) : String :=
  match a.resource with
  | none => a.bare.text
  | some resource => a.bare.text ++ "/" ++ resource

@[simp] theorem text_toAddress_bare (a : BareAddress) : a.toAddress.text = a.text := rfl

@[simp] theorem text_toAddress_full (a : FullAddress) : a.toAddress.text = a.text := rfl

@[simp] theorem full?_toAddress_full (a : FullAddress) : a.toAddress.full? = some a := rfl

@[simp] theorem full?_toAddress_bare (a : BareAddress) : a.toAddress.full? = none := rfl

/-- Why a text is not an address of the wanted form. -/
inductive Defect
  | unprepared (part : Part)
  | missing (part : Part)
  | tooLong (part : Part)
  | unwantedResource
  | noResource
  deriving DecidableEq, Repr

def Defect.message : Defect → String
  | .unprepared .node => "localpart doesn’t pass nodeprep validation"
  | .unprepared .domain => "domain doesn’t pass nameprep validation"
  | .unprepared .resource => "resource doesn’t pass resourceprep validation"
  | .missing .node => "nodepart empty despite the presence of a @"
  | .missing .domain => "no domain found in this JID"
  | .missing .resource => "resource empty despite the presence of a /"
  | .tooLong .node => "localpart longer than 1023 bytes"
  | .tooLong .domain => "domain longer than 1023 bytes"
  | .tooLong .resource => "resource longer than 1023 bytes"
  | .unwantedResource => "resource found while parsing a bare JID"
  | .noResource => "no resource found in this full JID"

/-- The most bytes that one prepared part may take. -/
def Part.maxBytes : Nat := 1023

def Part.readBy (p : Preparation) (part : Part) (cs : List Char) : Except Defect String :=
  match p.prepare? part cs with
  | none => .error (.unprepared part)
  | some [] => .error (.missing part)
  | some prepared =>
    let text := String.ofList prepared
    if text.utf8ByteSize ≤ Part.maxBytes then .ok text else .error (.tooLong part)

/-- What stands before and after the first separator; nothing after it without one. -/
def splitAtFirst (separator : Char) (cs : List Char) : List Char × Option (List Char) :=
  match cs.dropWhile (· != separator) with
  | [] => (cs, none)
  | _ :: after => (cs.takeWhile (· != separator), some after)

/-- A domain, with a node if a separator stands in front of it. -/
def readBareBy (p : Preparation) (cs : List Char) : Except Defect BareAddress :=
  match splitAtFirst '@' cs with
  | (domain, none) => (Part.domain.readBy p domain).map (BareAddress.mk none)
  | (node, some domain) => do
    let node ← Part.node.readBy p node
    let domain ← Part.domain.readBy p domain
    return ⟨some node, domain⟩

def readBy (p : Preparation) (text : String) : Except Defect Address :=
  match splitAtFirst '/' text.toList with
  | (bare, none) => (readBareBy p bare).map fun bare => ⟨bare, none⟩
  | (bare, some resource) => do
    let bare ← readBareBy p bare
    let resource ← Part.resource.readBy p resource
    return ⟨bare, some resource⟩

def read (text : String) : Except Defect Address := readBy .tables text

end Address

def BareAddress.readBy (p : Address.Preparation) (text : String) :
    Except Address.Defect BareAddress := do
  let address ← Address.readBy p text
  match address.resource with
  | none => return address.bare
  | some _ => throw .unwantedResource

def BareAddress.read (text : String) : Except Address.Defect BareAddress := readBy .tables text

def FullAddress.readBy (p : Address.Preparation) (text : String) :
    Except Address.Defect FullAddress := do
  let address ← Address.readBy p text
  match address.full? with
  | some full => return full
  | none => throw .noResource

def FullAddress.read (text : String) : Except Address.Defect FullAddress := readBy .tables text

end StanzaDelivery
