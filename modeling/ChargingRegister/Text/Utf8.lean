/-!
# Characters in bytes

UTF-8 writes a character as a leading byte and up to three more. A row of bytes is read as
pieces, each a character or a flaw: bytes that begin no character, or that begin one and do not go
on as it should. A flaw is as long as the beginning of a character that it holds, and one byte
at least. `decode?` accepts rows without flaws only, `decodeLossy` puts a replacement character
in the place of each flaw.
-/
namespace ChargingRegister.Utf8

inductive Piece where
  | char (c : Char)
  /-- So many bytes that are no character, perhaps only because the row ends there. -/
  | flaw (length : Nat) (cutShort : Bool)
  deriving DecidableEq, Repr

/-- What a leading byte says: its share of the code point, how many bytes follow, and between
which values the first of them lies. -/
structure Lead where
  value : Nat
  following : Nat
  low : Nat
  high : Nat

/-- The bytes that lead more than one byte. The narrower bounds leave out forms that are longer
than necessary, surrogates, and numbers that are no code points. -/
def lead? (n : Nat) : Option Lead :=
  if 0xC2 ≤ n ∧ n ≤ 0xDF then some ⟨n - 0xC0, 1, 0x80, 0xBF⟩
  else if n = 0xE0 then some ⟨0, 2, 0xA0, 0xBF⟩
  else if n = 0xED then some ⟨0xD, 2, 0x80, 0x9F⟩
  else if 0xE1 ≤ n ∧ n ≤ 0xEF then some ⟨n - 0xE0, 2, 0x80, 0xBF⟩
  else if n = 0xF0 then some ⟨0, 3, 0x90, 0xBF⟩
  else if 0xF1 ≤ n ∧ n ≤ 0xF3 then some ⟨n - 0xF0, 3, 0x80, 0xBF⟩
  else if n = 0xF4 then some ⟨4, 3, 0x80, 0x8F⟩
  else none

/-- Goes on in a character of which some bytes are taken and others are still to follow. -/
def continued (value taken low high : Nat) : Nat → List UInt8 → Piece × List UInt8
  | 0, bytes => (.char (Char.ofNat value), bytes)
  | _ + 1, [] => (.flaw taken true, [])
  | following + 1, b :: bytes =>
    if low ≤ b.toNat ∧ b.toNat ≤ high then
      continued (value * 64 + (b.toNat - 0x80)) (taken + 1) 0x80 0xBF following bytes
    else (.flaw taken false, b :: bytes)

def next (b : UInt8) (bytes : List UInt8) : Piece × List UInt8 :=
  if b.toNat < 0x80 then (.char (Char.ofNat b.toNat), bytes)
  else match lead? b.toNat with
    | some l => continued l.value 1 l.low l.high l.following bytes
    | none => (.flaw 1 false, bytes)

theorem length_continued_le (value taken low high following : Nat) (bytes : List UInt8) :
    (continued value taken low high following bytes).2.length ≤ bytes.length := by
  induction following generalizing value taken low high bytes with
  | zero => exact Nat.le_refl _
  | succ following ih =>
    cases bytes with
    | nil => exact Nat.le_refl _
    | cons b bytes =>
      rw [continued]
      split
      · exact Nat.le_succ_of_le (ih ..)
      · exact Nat.le_refl _

theorem length_next_le (b : UInt8) (bytes : List UInt8) :
    (next b bytes).2.length ≤ bytes.length := by
  unfold next
  split
  · exact Nat.le_refl _
  · split
    · exact length_continued_le ..
    · exact Nat.le_refl _

def pieces : List UInt8 → List Piece
  | [] => []
  | b :: bytes => (next b bytes).1 :: pieces (next b bytes).2
termination_by bytes => bytes.length
decreasing_by exact Nat.lt_succ_of_le (length_next_le b bytes)

/-- The first flaw of a row: where it begins, how long it is, and whether the row ends there. -/
structure Flaw where
  index : Nat
  length : Nat
  cutShort : Bool
  deriving DecidableEq, Repr

def Flaw.message (f : Flaw) : String :=
  if f.cutShort then "incomplete utf-8 byte sequence from index " ++ Nat.repr f.index
  else "invalid utf-8 sequence of " ++ Nat.repr f.length ++ " bytes from index " ++
    Nat.repr f.index

def firstFlaw? (index : Nat) : List Piece → Option Flaw
  | [] => none
  | .char c :: ps => firstFlaw? (index + c.utf8Size) ps
  | .flaw length cutShort :: _ => some ⟨index, length, cutShort⟩

/-- A flaw is shown as one replacement character. -/
def Piece.shown : Piece → Char
  | .char c => c
  | .flaw .. => '\uFFFD'

def decodeLossy (bytes : List UInt8) : List Char :=
  (pieces bytes).map Piece.shown

def decode? (bytes : List UInt8) : Except Flaw (List Char) :=
  match firstFlaw? 0 (pieces bytes) with
  | some flaw => .error flaw
  | none => .ok (decodeLossy bytes)

def encode (cs : List Char) : List UInt8 :=
  cs.flatMap String.utf8EncodeChar

end ChargingRegister.Utf8
