import StanzaDelivery.Address.Preparation
import StanzaDelivery.Text.Acute

/-! A preparation by tables. Each part is mapped, composed, checked for characters it may
not hold, and checked for mixed writing direction. The tables know ASCII, the Latin-1, Greek
and Cyrillic capitals, letters that take an acute accent, some compatibility forms, Hebrew
and Arabic letters, and the ranges that hold no written character; every other character
stands for itself. -/

namespace StanzaDelivery.Address

/-- Nodes and domains are compared without case; resources keep theirs. -/
def Part.foldsCase : Part → Bool
  | .node => true
  | .domain => true
  | .resource => false

namespace Preparation

def within (c : Char) (low high : Nat) : Bool := low ≤ c.toNat && c.toNat ≤ high

/-- Characters that preparation removes: soft hyphens, joiners, variation selectors. -/
def isRemoved (c : Char) : Bool :=
  c.toNat == 0xAD || c.toNat == 0x34F || c.toNat == 0x1806 || within c 0x180B 0x180D ||
    within c 0x200B 0x200D || c.toNat == 0x2060 || within c 0xFE00 0xFE0F || c.toNat == 0xFEFF

def shift (c : Char) (distance : Nat) : Char := Char.ofNat (c.toNat + distance)

def isShiftedCapital (c : Char) : Bool :=
  within c 0x41 0x5A || (within c 0xC0 0xDE && c.toNat != 0xD7) ||
    (within c 0x391 0x3A9 && c.toNat != 0x3A2) || within c 0x410 0x42F || within c 0xFF21 0xFF3A

def foldCase (c : Char) : List Char :=
  if isShiftedCapital c then [shift c 0x20]
  else if within c 0x400 0x40F then [shift c 0x50]
  else if within c 0x2160 0x216F then [shift c 0x10]
  else if c = 'ß' then ['s', 's']
  else if c = 'ς' then ['σ']
  else if c.toNat = 0x2126 then ['ω']
  else if c.toNat = 0x130 then ['i', '\u0307']
  else [c]

/-- A character written with plainer ones, where it is only a form of those. -/
def plainForm (c : Char) : List Char :=
  if within c 0xFF01 0xFF5E then [Char.ofNat (c.toNat - 0xFEE0)]
  else if c.toNat = 0xA0 ∨ c.toNat = 0x3000 ∨ within c 0x2000 0x200A ∨ c.toNat = 0x202F ∨
      c.toNat = 0x205F then [' ']
  else if c.toNat = 0x2100 then ['a', '/', 'c']
  else if c.toNat = 0x2126 then ['Ω']
  else if c.toNat = 0x2167 then ['V', 'I', 'I', 'I']
  else if c.toNat = 0x2177 then ['v', 'i', 'i', 'i']
  else if c.toNat = 0xFB00 then ['f', 'f']
  else if c.toNat = 0xFB01 then ['f', 'i']
  else if c.toNat = 0xFB02 then ['f', 'l']
  else [c]

/-- The character that a letter and a mark after it make together. -/
def composed? (letter mark : Char) : Option Char :=
  if mark.toNat = 0x301 then Text.withAcute? letter
  else if mark.toNat = 0x307 ∧ letter = 'I' then some (Char.ofNat 0x130)
  else none

def compose : List Char → List Char
  | [] => []
  | [c] => [c]
  | c :: mark :: rest =>
    match composed? c mark with
    | some made => made :: compose rest
    | none => c :: compose (mark :: rest)

def isControl (c : Char) : Bool := c.toNat < 0x20 || c.toNat == 0x7F

/-- Characters that no part may hold once it is mapped and composed. -/
def isUnwritable (c : Char) : Bool :=
  within c 0x80 0x9F || c.toNat == 0x6DD || c.toNat == 0x70F || c.toNat == 0x1680 ||
    c.toNat == 0x180E || within c 0x200E 0x200F || within c 0x2028 0x202E ||
    within c 0x2060 0x206F || within c 0x2FF0 0x2FFB || within c 0x340 0x341 ||
    within c 0xE000 0xF8FF || within c 0xFDD0 0xFDEF || within c 0xFFF9 0xFFFF ||
    c.toNat % 0x10000 ≥ 0xFFFE || within c 0x1F000 0x1FAFF || c.toNat ≥ 0xE0000

def isNodeDelimiter (c : Char) : Bool :=
  c = ' ' || c = '"' || c = '&' || c = '\'' || c = '/' || c = ':' || c = '<' || c = '>' || c = '@'

def permits : Part → Char → Bool
  | .node, c => !(isControl c || isNodeDelimiter c || isUnwritable c)
  | .domain, c => !isUnwritable c
  | .resource, c => !(isControl c || isUnwritable c)

def isRightToLeft (c : Char) : Bool :=
  c.toNat == 0x5BE || c.toNat == 0x5C0 || c.toNat == 0x5C3 || within c 0x5D0 0x5F4 ||
    within c 0x61B 0x64A || within c 0x66D 0x6D5 || within c 0xFB1D 0xFDFC || within c 0xFE70 0xFEFC

def isLeftToRight (c : Char) : Bool :=
  within c 0x41 0x5A || within c 0x61 0x7A || c.toNat == 0xAA || c.toNat == 0xB5 ||
    c.toNat == 0xBA || (within c 0xC0 0x2B8 && c.toNat != 0xD7 && c.toNat != 0xF7) ||
    within c 0x370 0x482 || within c 0x48A 0x589 || within c 0x3041 0x3096 ||
    within c 0x30A1 0x30FA || within c 0x3400 0x9FFF || within c 0xAC00 0xD7A3

/-- A part with a right-to-left letter holds no left-to-right one, and begins and ends
with a right-to-left letter. -/
def hasOneDirection (cs : List Char) : Bool :=
  !cs.any isRightToLeft ||
    (!cs.any isLeftToRight && cs.head?.any isRightToLeft && cs.getLast?.any isRightToLeft)

def mapped (part : Part) (cs : List Char) : List Char :=
  let kept := cs.filter fun c => !isRemoved c
  let folded := if part.foldsCase then kept.flatMap foldCase else kept
  folded.flatMap plainForm

/-- The prepared part, if it holds only what this part of an address may hold. -/
def tables : Preparation where
  prepare? part cs :=
    let prepared := compose (mapped part cs)
    if prepared.all (permits part) && hasOneDirection prepared then some prepared else none

end Preparation
end StanzaDelivery.Address
