/-!
# What can go wrong in the register

Every failure has one of five causes. `RegistryError.message` is the text an operator reads.
-/
namespace ChargingRegister

inductive RegistryError where
  /-- The caller's input was refused. -/
  | invalidInput (operation reason : String)
  | notFound (entity field value : String)
  /-- The store did not carry out one of its operations. -/
  | storageFailure (operation cause : String)
  | unauthorized (reason : String)
  /-- A guest asked for an operation that writes. -/
  | forbidden (operation : String)
  deriving DecidableEq, Repr

namespace RegistryError

def message : RegistryError → String
  | .invalidInput operation reason => operation ++ ": invalid input: " ++ reason
  | .notFound entity field value =>
    "Not found: " ++ entity ++ " with " ++ field ++ "=" ++ value
  | .storageFailure operation cause => operation ++ ": storage failure: " ++ cause
  | .unauthorized reason => "Unauthorized: " ++ reason
  | .forbidden operation => operation ++ " is not permitted in guest mode"

/-- The operation that failed, for the causes that name one. -/
def operation? : RegistryError → Option String
  | .invalidInput operation _ | .storageFailure operation _ | .forbidden operation =>
    some operation
  | .notFound .. | .unauthorized _ => none

def isStorageFailure : RegistryError → Bool
  | .storageFailure .. => true
  | _ => false

end RegistryError

end ChargingRegister
