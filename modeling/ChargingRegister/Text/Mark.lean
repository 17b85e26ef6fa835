import ChargingRegister.Text.Mark.Table
import ChargingRegister.Text.Printable

/-!
# Marks

A mark belongs to the character before it. A text is composed when its marks are in the order of
their classes and no character can be drawn into an earlier one, because nothing of the same class
or of class zero stands between them.
-/
namespace ChargingRegister.Text

/-- A mark, or a letter that is written with a mark in front. -/
def isMark (c : Char) : Bool :=
  isExtending c || inRanges spacingMarkRanges c.toNat

/-- A mark that takes no room of its own. -/
def isNonspacing (c : Char) : Bool :=
  isExtending c && !inRanges roomyRanges c.toNat

def combiningClass (c : Char) : Nat :=
  match combiningRanges.find? fun r => r.1 ≤ c.toNat && c.toNat ≤ r.2.1 with
  | some r => r.2.2
  | none => 0

/-- The class of marks that take the vowel from a letter. -/
def silencingClass : Nat := 9

/-- A vowel drawn into a leading consonant, or a trailing consonant into both of them. -/
def formsSyllable (a b : Nat) : Bool :=
  (0x1100 ≤ a && a ≤ 0x1112 && 0x1161 ≤ b && b ≤ 0x1175) ||
    (0xAC00 ≤ a && a ≤ 0xD7A3 && (a - 0xAC00) % 28 = 0 && 0x11A8 ≤ b && b ≤ 0x11C2)

def isDrawnInto (a b : Char) : Bool :=
  formsSyllable a.toNat b.toNat || ((composites.lookup b.toNat).any (·.contains a.toNat))

/-- What follows the last character of class zero, if there is one, and a mark of class `last`. -/
def isComposedAfter (base : Option Char) (last : Nat) : List Char → Bool
  | [] => true
  | c :: cs =>
    let k := combiningClass c
    let isFree := if k = 0 then last = 0 else last < k
    !(isFree && base.any (isDrawnInto · c)) &&
      if k = 0 then isComposedAfter (some c) 0 cs
      else last ≤ k && isComposedAfter base k cs

def isComposed (cs : List Char) : Bool :=
  isComposedAfter none 0 cs

end ChargingRegister.Text
