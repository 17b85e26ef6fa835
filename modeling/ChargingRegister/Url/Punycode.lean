import ChargingRegister.Decimal

/-!
# Names written with letters, digits and hyphens

A text with characters beyond ASCII is written as its ASCII characters, a hyphen, and one number
for each other character, least code point first. A number tells how many code points and places
lie between one insertion and the next. Its digits are letters and figures, the lowest first, and
a digit below its threshold ends it.
-/
namespace ChargingRegister.Url.Punycode

def digit? (c : Char) : Option Nat :=
  if c.isLower then some (c.toNat - 'a'.toNat)
  else if c.isUpper then some (c.toNat - 'A'.toNat)
  else if Decimal.isDigit c then some (c.toNat - '0'.toNat + 26)
  else none

/-- The digit at a place counted in steps of 36 is the last one when it is below this. -/
def threshold (place bias : Nat) : Nat :=
  min 26 (max 1 (place - bias))

/-- Divides by 35 until the number is small, and counts 36 for each division. -/
def shrink (number count : Nat) : Nat :=
  if 455 < number then shrink (number / 35) (count + 36)
  else count + 36 * number / (number + 38)
termination_by number
decreasing_by omega

/-- The thresholds follow the size of the last number. -/
def nextBias (number length : Nat) (isFirst : Bool) : Nat :=
  let number := if isFirst then number / 700 else number / 2
  shrink (number + number / length) 0

structure State where
  code : Nat
  index : Nat
  bias : Nat
  text : List Char
  /-- The number that is being read: what it added so far, and the place of its next digit. -/
  added : Nat
  weight : Nat
  place : Nat
  isFirst : Bool

def start (text : List Char) : State :=
  ⟨128, 0, 72, text, 0, 1, 36, true⟩

/-- Numbers stay within 32 bits. -/
def limit : Nat := 0x100000000

/-- The end of a number: the next character takes its place. -/
def State.insert? (s : State) (added : Nat) : Option State :=
  let index := s.index + added
  let length := s.text.length + 1
  let code := s.code + index / length
  let place := index % length
  if limit ≤ index ∨ ¬code.isValidChar then none
  else some {
    code
    index := place + 1
    bias := nextBias added length s.isFirst
    text := s.text.take place ++ Char.ofNat code :: s.text.drop place
    added := 0, weight := 1, place := 36, isFirst := false }

def State.read? (s : State) (c : Char) : Option State := do
  let d ← digit? c
  let added := s.added + d * s.weight
  let t := threshold s.place s.bias
  if limit ≤ added then none
  else if d < t then s.insert? added
  else some { s with added, weight := s.weight * (36 - t), place := s.place + 36 }

/-- The text that a name stands for; none when a number is cut short or too large. -/
def decode? (cs : List Char) : Option (List Char) := do
  let ascii := ((cs.reverse.dropWhile (· != '-')).drop 1).reverse
  let digits := if ascii.isEmpty then cs else (cs.reverse.takeWhile (· != '-')).reverse
  let last ← digits.foldlM State.read? (start ascii)
  if last.weight = 1 then some last.text else none

end ChargingRegister.Url.Punycode
