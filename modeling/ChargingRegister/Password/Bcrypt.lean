import ChargingRegister.Decimal
import ChargingRegister.Password.Base64
import ChargingRegister.Password.Blowfish
import ChargingRegister.Text.Parts

/-!
# Password hashes

A hash names its version and cost, then the salt and the digest in base 64. The digest is computed
over the bytes of the password and a zero byte, as far as 72 bytes go; the cost is the binary
logarithm of the number of repetitions. Verifying repeats the computation with the salt and cost
found in the hash, in all versions alike.
-/
namespace ChargingRegister.Bcrypt

inductive HashError where
  /-- The parts of a hash cannot be told apart. -/
  | malformed
  | unknownVersion
  | unreadableCost
  | costOutOfRange
  | undecodable
  deriving DecidableEq, Repr

abbrev Salt := Vector UInt8 16

/-- How many bytes of a password count. -/
def keyLimit : Nat := 72

/-- The bytes that a password stands for. -/
def keyOf (password : String) : List UInt8 :=
  (password.toUTF8.toList ++ [0]).take keyLimit

/-- The next four bytes of a key that repeats, as one word, and the bytes after them. -/
def takeWord (key : List UInt8) : Nat → UInt32 → List UInt8 → UInt32 × List UInt8
  | 0, acc, rest => (acc, rest)
  | n + 1, acc, b :: rest => takeWord key n (acc <<< 8 ||| b.toUInt32) rest
  | n + 1, acc, [] =>
    match key with
    | [] => takeWord key n (acc <<< 8) []
    | b :: rest => takeWord key n (acc <<< 8 ||| b.toUInt32) rest

def wordsOf (key : List UInt8) : Nat → List UInt8 → List UInt32
  | 0, _ => []
  | n + 1, rest =>
    let r := takeWord key 4 0 rest
    r.1 :: wordsOf key n r.2

def keyWords (key : List UInt8) : Array UInt32 :=
  (wordsOf key 18 key).toArray

def saltWords (salt : List UInt8) : Blowfish.SaltWords :=
  match wordsOf salt 4 salt with
  | [a, b, c, d] => ⟨a, b, c, d⟩
  | _ => .zero

def bytesOf (w : UInt32) : List UInt8 :=
  [(w >>> 24).toUInt8, (w >>> 16).toUInt8, (w >>> 8).toUInt8, w.toUInt8]

/-- The cipher after all repetitions. -/
def cipher (cost : Nat) (salt key : List UInt8) : Blowfish.Cipher :=
  let first := keyWords key
  Blowfish.strengthen first (keyWords salt) (Nat.pow 2 cost)
    (Blowfish.expand (saltWords salt) first Blowfish.start)

def phrase : List (UInt32 × UInt32) :=
  [(0x4F727068, 0x65616E42), (0x65686F6C, 0x64657253), (0x63727944, 0x6F756274)]

/-- The enciphered phrase without its last byte. -/
def digest (cost : Nat) (salt key : List UInt8) : List UInt8 :=
  let c := cipher cost salt key
  let blocks := phrase.map (Blowfish.encipherTimes c 64)
  (blocks.flatMap fun b => bytesOf b.1 ++ bytesOf b.2).take 23

theorem digest_length (cost : Nat) (salt key : List UInt8) :
    (digest cost salt key).length = 23 := by
  simp [digest, phrase, bytesOf]

def minCost : Nat := 4

def maxCost : Nat := 31

def defaultCost : Nat := 12

def versions : List String := ["2a", "2b", "2x", "2y"]

def hashWith (cost : Nat) (salt : Salt) (password : String) : String :=
  "$2b$" ++ Decimal.padded 2 cost ++ "$" ++
    String.ofList (Base64.encode salt.toList ++
      Base64.encode (digest cost salt.toList (keyOf password)))

def hash (salt : Salt) (password : String) : String :=
  hashWith defaultCost salt password

/-- An unsigned word of 32 bits in decimal, a plus sign allowed. -/
def cost? (cs : List Char) : Option Nat :=
  let digits := match cs with
    | '+' :: rest => rest
    | cs => cs
  (Decimal.natOf? digits).filter (· < 0x100000000)

/-- Splits where the given number of bytes ends, unless that is inside a character. -/
def splitBytes? : Nat → List Char → Option (List Char × List Char)
  | 0, cs => some ([], cs)
  | _ + 1, [] => none
  | n + 1, c :: cs =>
    if c.utf8Size ≤ n + 1 then
      (splitBytes? (n + 1 - c.utf8Size) cs).map fun r => (c :: r.1, r.2)
    else none
termination_by _ cs => cs.length

/-- What a hash says. -/
structure Parts where
  cost : Nat
  salt : List Char
  digest : List Char
  deriving DecidableEq

def utf8Length (cs : List Char) : Nat :=
  cs.foldl (fun n c => n + c.utf8Size) 0

/-- Empty pieces do not count. -/
def parts (hash : String) : Except HashError Parts :=
  match (Text.split '$' hash.toList).filter (!·.isEmpty) with
  | [version, cost, body] =>
    if !versions.contains (String.ofList version) then .error .unknownVersion
    else match cost? cost with
      | none => .error .unreadableCost
      | some cost =>
        if utf8Length body ≠ 53 then .error .malformed
        else match splitBytes? 22 body with
          | none => .error .malformed
          | some (salt, digest) => .ok ⟨cost, salt, digest⟩
  | _ => .error .malformed

def verify (password hash : String) : Except HashError Bool :=
  match parts hash with
  | .error e => .error e
  | .ok p =>
    match Base64.decode p.salt with
    | none => .error .undecodable
    | some salt =>
      if p.cost < minCost ∨ maxCost < p.cost then .error .costOutOfRange
      else match Base64.decode p.digest with
        | none => .error .undecodable
        | some expected => .ok (digest p.cost salt (keyOf password) == expected)

end ChargingRegister.Bcrypt
