import ChargingRegister.Password.Bcrypt
import ChargingRegister.Session
import ChargingRegister.Store.Operation
import ChargingRegister.Text.Parts

/-!
# Signing in

Credentials are checked against the stored hash of the account. Blank usernames, empty passwords,
unknown accounts and hashes that cannot be read all count as a mismatch; only a failure of the
store is an error.
-/
namespace ChargingRegister.Identity

abbrev Result (α : Type) := Except RegistryError α

/-- The password belongs to the account's hash. -/
def accepts (account : Account) (password : String) : Bool :=
  match Bcrypt.verify password account.passwordHash with
  | .ok valid => valid
  | .error _ => false

def authenticate (username password : String) : Program (Result Bool) :=
  if Text.blank username || password.isEmpty then .done (.ok false)
  else .call (.findAccount (Text.trim username)) fun
    | .error e => .done (.error e)
    | .ok none => .done (.ok false)
    | .ok (some account) => .done (.ok (accepts account password))

/-- How someone asks to start a session. -/
inductive SignIn where
  | guest
  | credentials (username password : String)

def invalidCredentials : RegistryError :=
  .unauthorized "Invalid credentials"

def signInAs (t : Ticket) (username password : String) : Program (Result Session) :=
  (authenticate username password).bind fun
    | .error e => .done (.error e)
    | .ok false => .done (.error invalidCredentials)
    | .ok true => .done (.ok (.administrator t (Text.trim username)))

def openSession (t : Ticket) : SignIn → Program (Result Session)
  | .guest => .done (.ok (.guest t))
  | .credentials username password => signInAs t username password

/-- A restart that failed hands the old session back. -/
structure RestartError where
  session : Session
  error : RegistryError

/-- Replaces a session by one of an administrator. -/
def restart (t : Ticket) (current : Session) (username password : String) :
    Program (Except RestartError Session) :=
  (openSession t (.credentials username password)).bind fun
    | .error e => .done (.error ⟨current, e⟩)
    | .ok next => .done (.ok next)

def emptyCredentials : RegistryError :=
  .invalidInput "create_user" "administrator username and password must not be empty"

/-- Creates the first administrator while there are no accounts, and tells whether it did. -/
def ensureAdministrator (salt : Bcrypt.Salt) (username password : String) :
    Program (Result Bool) :=
  if Text.blank username || password.isEmpty then .done (.error emptyCredentials)
  else .call .countAccounts fun
    | .error e => .done (.error e)
    | .ok (_ + 1) => .done (.ok false)
    | .ok 0 => .call (.createAccount (Text.trim username) (Bcrypt.hash salt password)) fun
      | .error e => .done (.error e)
      | .ok _ => .done (.ok true)

end ChargingRegister.Identity
