import ChargingRegister.Decimal

/-!
# Faults that a database reports

Each fault has a code and a reason. Opening a database, changing its tables and running a
statement can all meet one, and report it in the same words.
-/
namespace ChargingRegister

inductive Fault where
  | noTable (name : String)
  | patternTooLong
  /-- No way to keep files has this name. -/
  | unknownBackend (name : String)
  /-- A name of a file on another machine. -/
  | foreignHost (name : String)
  /-- A way of access, or of sharing a cache, that there is not. -/
  | unknownMode (kind name : String)
  /-- More access than was asked for when the file was opened. -/
  | deniedAccess (name : String)
  | readOnly
  /-- Something that opens as a file does and cannot be read. -/
  | unreadable
  /-- The file that a new one would be modelled on is missing. -/
  | noModel
  /-- No number is left for a new row. -/
  | full
  | cannotOpen
  | notDatabase
  deriving DecidableEq, Repr

namespace Fault

def code : Fault → Nat
  | .noTable _ | .patternTooLong | .unknownBackend _ | .foreignHost _ | .unknownMode .. => 1
  | .deniedAccess _ => 3
  | .readOnly => 8
  | .full => 13
  | .cannotOpen => 14
  | .notDatabase => 26
  | .unreadable => 266
  | .noModel => 1802

def reason : Fault → String
  | .noTable name => "no such table: " ++ name
  | .patternTooLong => "LIKE or GLOB pattern too complex"
  | .unknownBackend name => "no such vfs: " ++ name
  | .foreignHost name => "invalid uri authority: " ++ name
  | .unknownMode kind name => "no such " ++ kind ++ " mode: " ++ name
  | .deniedAccess name => "access mode not allowed: " ++ name
  | .readOnly => "attempt to write a readonly database"
  | .unreadable | .noModel => "disk I/O error"
  | .full => "database or disk is full"
  | .cannotOpen => "unable to open database file"
  | .notDatabase => "file is not a database"

def message (f : Fault) : String :=
  "error returned from database: (code: " ++ Decimal.ofNat f.code ++ ") " ++ f.reason

end Fault

end ChargingRegister
