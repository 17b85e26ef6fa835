import ChargingRegister.Config
import ChargingRegister.Console.Execution
import ChargingRegister.Console.Invocation
import ChargingRegister.Identity
import ChargingRegister.Store.Volume

/-!
# Running an invocation

An invocation opens its store, makes sure that there is an administrator, opens a session and
carries out its command. Without a command the session itself is reported.
-/
namespace ChargingRegister.Console

abbrev Result (α : Type) := Except RegistryError α

/-- What a run takes from the world: a session's ticket and a salt for a new password hash. -/
structure Supply where
  ticket : Ticket
  salt : Bcrypt.Salt

namespace Invocation

/-- With a username but no password, the password is empty. -/
def signIn (inv : Invocation) : Identity.SignIn :=
  match inv.options.user with
  | some username => .credentials username (inv.options.password.getD "")
  | none => .guest

def form (inv : Invocation) : Report.Form :=
  if inv.options.json then .json else .text

def serve (inv : Invocation) (session : Session) : Program (Result Report) :=
  match inv.command with
  | some c => c.execute session
  | none => .done (.ok (.session session))

/-- A first administrator that cannot be created is no obstacle. -/
def program (inv : Invocation) (supply : Supply) (admin : AdminConfig) :
    Program (Result Report) :=
  (Identity.ensureAdministrator supply.salt admin.username admin.password).bind fun _ =>
    (Identity.openSession supply.ticket inv.signIn).bind fun
      | .error e => .done (.error e)
      | .ok session => inv.serve session

def runOn (inv : Invocation) (supply : Supply) (admin : AdminConfig) (db : OpenDatabase) :
    Result Report × OpenDatabase :=
  match if inv.options.noMigrate then .ok db else db.migrate with
  | .error e => (.error e, db)
  | .ok db => (inv.program supply admin).run (OpenDatabase.handle supply.ticket.now) db

/-- Runs on a store of its own, or on the configured database, which keeps what was written. -/
def run (inv : Invocation) (supply : Supply) (config : Config) (v : Volume) :
    Result Report × Volume :=
  if inv.options.memory then
    (((inv.program supply config.admin).run (MemoryStore.handle supply.ticket.now) .empty).1, v)
  else match v.openUrl config.database.connectionUrl with
    | .error e => (.error e, v)
    | .ok db =>
      let after := inv.runOn supply config.admin db
      (after.1, v.close after.2)

end Invocation

end ChargingRegister.Console
