import ChargingRegister.Config
import ChargingRegister.Console.Run

/-!
# Outcomes of the console

From arguments, variables and files to an exit code, what is printed and what is complained
about. A configuration that cannot be loaded is replaced by the defaults. Exit code 0 stands for
success, 1 for a failure and 2 for arguments that cannot be read.
-/
namespace ChargingRegister.Console

structure Surroundings where
  environment : String → Option String
  /-- The home directory that belongs to the user's account. -/
  accountHome : Option String
  /-- What is found at the path of a configuration. -/
  configAt : String → Config.Source
  supply : Supply

structure Outcome where
  exitCode : Nat
  printed : String
  complaint : String
  deriving DecidableEq

def versionLine : String :=
  "station-registry 0.1.0"

/-- Exit codes only: the wording of help and of complaints about arguments is left out. -/
def Outcome.ofUsageError : UsageError → Outcome
  | .helpRequest => ⟨0, "", ""⟩
  | .versionRequest => ⟨0, Report.ofLines [versionLine], ""⟩
  | _ => ⟨2, "", ""⟩

/-- The configuration in force, shown instead of running a command. -/
def checkLines (path : String) (config : Config) : List String :=
  ["Configuration is valid",
    "   Config file : " ++ path,
    "   Database    : " ++ config.database.connectionUrl,
    "   Log level   : " ++ config.logging.level,
    "   Log format  : " ++ config.logging.format] ++
    if config.admin.usesDefaultPassword then
      ["   Warning     : [admin] password is the default, change it"]
    else []

def Outcome.ofResult (form : Report.Form) : Result Report → Outcome
  | .ok report => ⟨0, report.render form, ""⟩
  | .error e => ⟨1, "", Report.ofLines ["Error: " ++ e.message]⟩

namespace Invocation

def configPath (inv : Invocation) (environment : String → Option String)
    (accountHome : Option String) : String :=
  inv.options.config.getD (Config.defaultPath environment accountHome)

/-- The configuration in force: the loaded one or the defaults, with a log level that was given
as an option. -/
def configInForce (inv : Invocation) (loaded : Except Config.LoadError Config) : Config :=
  let config := match loaded with
    | .ok config => config
    | .error _ => Config.default
  { config with
    logging := { config.logging with level := inv.options.logLevel.getD config.logging.level } }

def databaseFile? (inv : Invocation) (config : Config) : Option String :=
  if inv.options.memory || inv.options.check then none
  else match Opening.ofUrl config.database.connectionUrl with
    | .ok o => o.file?
    | .error _ => none

def outcome (inv : Invocation) (s : Surroundings) (v : Volume) : Outcome × Volume :=
  let path := inv.configPath s.environment s.accountHome
  let config := inv.configInForce (Config.load (s.configAt path))
  if inv.options.check then (⟨0, Report.ofLines (checkLines path config), ""⟩, v)
  else
    let after := inv.run s.supply config v
    (.ofResult inv.form after.1, after.2)

end Invocation

/-- One process from start to end. -/
def Outcome.ofArguments (args : List String) (s : Surroundings) (v : Volume) :
    Outcome × Volume :=
  match Invocation.ofArguments s.environment args with
  | .error e => (.ofUsageError e, v)
  | .ok inv => inv.outcome s v

end ChargingRegister.Console
