import ChargingRegister.Password.Blowfish.Tables

/-!
# The Blowfish cipher with a salted, expensive key schedule

Words have 32 bits and wrap. A key is a row of words that repeats; a salt is four words that
repeat. Mixing in a key enciphers a running block over and over and puts every result into the
tables that encipher the next one.
-/
namespace ChargingRegister.Blowfish

structure Cipher where
  keys : Array UInt32
  boxes : Array UInt32

def start : Cipher :=
  ⟨roundKeys, boxes⟩

@[inline] def word (a : Array UInt32) (i : Nat) : UInt32 :=
  a.getD i 0

/-- The round function: one word of each box, picked by the four bytes of `x`. -/
@[inline] def mix (boxes : Array UInt32) (x : UInt32) : UInt32 :=
  let i : UInt32 := x >>> 24
  let j : UInt32 := (x >>> 16 &&& 0xFF) ||| 0x100
  let k : UInt32 := (x >>> 8 &&& 0xFF) ||| 0x200
  let l : UInt32 := (x &&& 0xFF) ||| 0x300
  ((word boxes i.toNat + word boxes j.toNat) ^^^ word boxes k.toNat) + word boxes l.toNat

/-- Two rounds at a time, from round `i` on. -/
def rounds (keys boxes : Array UInt32) (i : Nat) (left right : UInt32) :
    (remaining : Nat) → UInt32 × UInt32
  | 0 => (right ^^^ word keys 17, left ^^^ word keys 16)
  | n + 1 =>
    let left := left ^^^ word keys i
    let right := right ^^^ mix boxes left
    let right := right ^^^ word keys (i + 1)
    let left := left ^^^ mix boxes right
    rounds keys boxes (i + 2) left right n

@[inline] def encipher (keys boxes : Array UInt32) (left right : UInt32) : UInt32 × UInt32 :=
  rounds keys boxes 0 left right 8

/-- Four words that are mixed into the running block in turn, two at a time. -/
structure SaltWords where
  a : UInt32
  b : UInt32
  c : UInt32
  d : UInt32

def SaltWords.zero : SaltWords :=
  ⟨0, 0, 0, 0⟩

def SaltWords.turn (w : SaltWords) : SaltWords :=
  ⟨w.c, w.d, w.a, w.b⟩

structure Running where
  table : Array UInt32
  left : UInt32
  right : UInt32
  salt : SaltWords

/-- Replaces the round keys pair by pair, from key `i` on. -/
def fillKeys (boxes : Array UInt32) (i : Nat) (keys : Array UInt32) (left right : UInt32)
    (salt : SaltWords) : (remaining : Nat) → Running
  | 0 => ⟨keys, left, right, salt⟩
  | n + 1 =>
    match encipher keys boxes (left ^^^ salt.a) (right ^^^ salt.b) with
    | (left, right) =>
      fillKeys boxes (i + 2) ((keys.set! i left).set! (i + 1) right) left right salt.turn n

/-- Replaces the boxes pair by pair, from word `i` on. -/
def fillBoxes (keys : Array UInt32) (i : Nat) (boxes : Array UInt32) (left right : UInt32)
    (salt : SaltWords) : (remaining : Nat) → Array UInt32
  | 0 => boxes
  | n + 1 =>
    match encipher keys boxes (left ^^^ salt.a) (right ^^^ salt.b) with
    | (left, right) =>
      fillBoxes keys (i + 2) ((boxes.set! i left).set! (i + 1) right) left right salt.turn n

/-- The round keys with the words of a key mixed in. -/
def mixKey (key : Array UInt32) (keys : Array UInt32) : Array UInt32 :=
  keys.mapIdx fun i k => k ^^^ word key i

/-- Mixes a key of 18 words and a salt into the cipher. -/
def expand (salt : SaltWords) (key : Array UInt32) : Cipher → Cipher
  | ⟨keys, boxes⟩ =>
    match fillKeys boxes 0 (mixKey key keys) 0 0 salt 9 with
    | ⟨keys, left, right, salt⟩ => ⟨keys, fillBoxes keys 0 boxes left right salt 512⟩

/-- Mixes in two keys by turns, the given number of times. -/
def strengthen (first second : Array UInt32) : Nat → Cipher → Cipher
  | 0, c => c
  | n + 1, c => strengthen first second n (expand .zero second (expand .zero first c))

def encipherTimes (c : Cipher) : Nat → UInt32 × UInt32 → UInt32 × UInt32
  | 0, block => block
  | n + 1, (left, right) => encipherTimes c n (encipher c.keys c.boxes left right)

end ChargingRegister.Blowfish
