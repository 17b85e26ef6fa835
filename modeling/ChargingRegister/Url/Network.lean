import ChargingRegister.Json.Reader
import ChargingRegister.Text.Parts

/-!
# Addresses in a network

The written forms of addresses of 32 and of 128 bits. The short ones are numbers with points
between them, each decimal, octal or hexadecimal, of which the last fills the bytes that the
others leave. The long ones are groups of up to four hexadecimal digits with colons between them.
Two colons in a row, once at most, stand for one or more groups of zeros, and the last two
groups may be written as four decimal bytes.
-/
namespace ChargingRegister.Url

/-- The number in a part of a short address: hexadecimal behind `0x`, octal behind `0`. -/
def addressNumber? (cs : List Char) : Option Nat :=
  let read (base : Nat) (digits : List Char) : Option Nat :=
    digits.foldlM (fun n c => ((Json.hexValue? c).filter (· < base)).map (n * base + ·)) 0
  match cs with
  | [] => none
  | '0' :: 'x' :: digits | '0' :: 'X' :: digits => read 16 digits
  | '0' :: c :: digits => read 8 (c :: digits)
  | digits => read 10 digits

/-- A point at the end of a name counts for nothing. -/
def dottedParts (cs : List Char) : List (List Char) :=
  let parts := Text.split '.' cs
  if parts.getLast? = some [] then parts.dropLast else parts

/-- The last part is a number, or at least nothing but decimal digits. -/
def endsInNumber (cs : List Char) : Bool :=
  match (dottedParts cs).getLast? with
  | some part =>
    (!part.isEmpty && part.all Decimal.isDigit) || (addressNumber? part).isSome
  | none => false

/-- Numbers of one byte, and at last one of all the bytes that are left of `room`. -/
def fitBytes : Nat → List Nat → Bool
  | _, [] => false
  | room, [n] => n < 256 ^ room
  | room, n :: ns => n < 256 && fitBytes (room - 1) ns

def isShortAddress (cs : List Char) : Bool :=
  let parts := dottedParts cs
  match parts.mapM addressNumber? with
  | some numbers => parts.length ≤ 4 && fitBytes 4 numbers
  | none => false

def isPlainByte (cs : List Char) : Bool :=
  match Decimal.natOf? cs with
  | some n => n < 256 && (cs.length = 1 || cs.head? ≠ some '0')
  | none => false

def isByteQuad (cs : List Char) : Bool :=
  let parts := Text.split '.' cs
  parts.length = 4 && parts.all isPlainByte

def isGroup (cs : List Char) : Bool :=
  1 ≤ cs.length && cs.length ≤ 4 && cs.all fun c => (Json.hexValue? c).isSome

/-- How many groups stand between colons, where the last two may be four bytes. -/
def groupCount? (allowQuad : Bool) : List (List Char) → Option Nat
  | [] => none
  | [last] =>
    if isGroup last then some 1
    else if allowQuad && isByteQuad last then some 2
    else none
  | group :: groups =>
    if isGroup group then (groupCount? allowQuad groups).map (· + 1) else none

def sideCount? (allowQuad : Bool) (cs : List Char) : Option Nat :=
  if cs.isEmpty then some 0 else groupCount? allowQuad (Text.split ':' cs)

def cutGap : List Char → Option (List Char × List Char)
  | ':' :: ':' :: cs => some ([], cs)
  | c :: cs => (cutGap cs).map fun sides => (c :: sides.1, sides.2)
  | [] => none

def isLongAddress (cs : List Char) : Bool :=
  match cutGap cs with
  | none => groupCount? true (Text.split ':' cs) = some 8
  | some (left, right) =>
    match sideCount? false left, sideCount? true right with
    | some m, some n => m + n ≤ 7
    | _, _ => false

end ChargingRegister.Url
