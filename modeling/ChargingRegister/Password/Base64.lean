/-!
# Base 64 for password hashes

Six bits make a character, most significant first. The alphabet starts with `.` and `/`; there is
no padding, and the bits of the last character that belong to no byte are zero.
-/
namespace ChargingRegister.Base64

def charOf (n : Nat) : Char :=
  if n = 0 then '.'
  else if n = 1 then '/'
  else if n < 28 then Char.ofNat (n - 2 + 0x41)
  else if n < 54 then Char.ofNat (n - 28 + 0x61)
  else Char.ofNat (n - 54 + 0x30)

def valueOf? (c : Char) : Option Nat :=
  let n := c.toNat
  if c = '.' then some 0
  else if c = '/' then some 1
  else if 0x41 ≤ n ∧ n ≤ 0x5A then some (n - 0x41 + 2)
  else if 0x61 ≤ n ∧ n ≤ 0x7A then some (n - 0x61 + 28)
  else if 0x30 ≤ n ∧ n ≤ 0x39 then some (n - 0x30 + 54)
  else none

def encode : List UInt8 → List Char
  | a :: b :: c :: rest =>
    let n := (a.toNat * 256 + b.toNat) * 256 + c.toNat
    charOf (n / 262144) :: charOf (n / 4096 % 64) :: charOf (n / 64 % 64) :: charOf (n % 64) ::
      encode rest
  | [a, b] =>
    let n := (a.toNat * 256 + b.toNat) * 4
    [charOf (n / 4096), charOf (n / 64 % 64), charOf (n % 64)]
  | [a] =>
    let n := a.toNat * 16
    [charOf (n / 64), charOf (n % 64)]
  | [] => []

/-- Reads groups of four values as three bytes each; a shorter last group as one or two. -/
def decodeValues : List Nat → Option (List UInt8)
  | a :: b :: c :: d :: rest =>
    let n := ((a * 64 + b) * 64 + c) * 64 + d
    (decodeValues rest).map fun bytes =>
      UInt8.ofNat (n / 65536) :: UInt8.ofNat (n / 256 % 256) :: UInt8.ofNat (n % 256) :: bytes
  | [a, b, c] =>
    let n := (a * 64 + b) * 64 + c
    if n % 4 = 0 then some [UInt8.ofNat (n / 1024), UInt8.ofNat (n / 4 % 256)] else none
  | [a, b] =>
    let n := a * 64 + b
    if n % 16 = 0 then some [UInt8.ofNat (n / 16)] else none
  | [_] => none
  | [] => some []

def decode (cs : List Char) : Option (List UInt8) :=
  (cs.mapM valueOf?).bind decodeValues

theorem valueOf?_charOf {n : Nat} (h : n < 64) : valueOf? (charOf n) = some n := by
  have all : ∀ m : Fin 64, valueOf? (charOf m) = some m.val := by decide
  exact all ⟨n, h⟩

end ChargingRegister.Base64
