import ChargingRegister.Calendar.Instant
import ChargingRegister.Error
import ChargingRegister.Json.Basic

/-!
# Sessions

A session is opened once, for a guest or for an administrator, and never changes its mode. Guests
may only read. Numbers that tell sessions apart have 128 bits and are written as groups of
hexadecimal digits.
-/
namespace ChargingRegister

inductive AccessMode where
  | administrator
  | guest
  deriving DecidableEq, Repr

namespace AccessMode

def canMutate : AccessMode → Bool
  | .administrator => true
  | .guest => false

def name : AccessMode → String
  | .administrator => "Administrator"
  | .guest => "Guest"

end AccessMode

structure SessionId where
  bits : BitVec 128
  deriving DecidableEq

namespace SessionId

/-- The identifier with the version and variant bits that mark it as random. -/
def ofRandom (n : Nat) : SessionId :=
  let version : BitVec 128 := 0xF <<< 76
  let variant : BitVec 128 := 0x3 <<< 62
  let bits := BitVec.ofNat 128 n &&& ~~~version &&& ~~~variant
  ⟨bits ||| (0x4 <<< 76) ||| (0x2 <<< 62)⟩

def digits (id : SessionId) : List Char :=
  (List.range 32).reverse.map fun i => Json.hexDigit (id.bits.toNat / Nat.pow 16 i % 16)

def toText (id : SessionId) : String :=
  let ds := id.digits
  let group (start length : Nat) := String.ofList ((ds.drop start).take length)
  String.intercalate "-" [group 0 8, group 8 4, group 12 4, group 16 4, group 20 12]

end SessionId

/-- What a new session takes from the world: an identifier and the current instant. -/
structure Ticket where
  id : SessionId
  now : Instant

structure Session where
  id : SessionId
  mode : AccessMode
  username : Option String
  startedAt : Instant
  deriving DecidableEq

namespace Session

def guest (t : Ticket) : Session :=
  ⟨t.id, .guest, none, t.now⟩

def administrator (t : Ticket) (username : String) : Session :=
  ⟨t.id, .administrator, some username, t.now⟩

/-- The gate in front of every operation that writes. -/
def checkCanMutate (s : Session) (operation : String) : Except RegistryError Unit :=
  if s.mode.canMutate then .ok () else .error (.forbidden operation)

/-- Ending a session leaves its identifier. -/
def finish (s : Session) : SessionId :=
  s.id

end Session

end ChargingRegister
