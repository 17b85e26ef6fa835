import ChargingRegister.Toml.Reader

/-!
# Configuration

Six texts in three sections, each with a default of its own. A section is a table, or an array
whose items stand for its keys in order. A key that is there must hold a string; everything else
in the document is ignored. The file is at the path in a variable, or else in a directory of its own
inside the directory for configurations, which is that of the desktop settings or a hidden one in
the home directory.
-/
namespace ChargingRegister

structure DatabaseConfig where
  /-- The file of the database, for as long as no address is given. -/
  path : String
  /-- The address of the database. -/
  url : Option String
  deriving DecidableEq, Repr

structure LoggingConfig where
  level : String
  format : String
  deriving DecidableEq, Repr

/-- The first administrator, created while there are no accounts. -/
structure AdminConfig where
  username : String
  password : String
  deriving DecidableEq, Repr

structure Config where
  database : DatabaseConfig
  logging : LoggingConfig
  admin : AdminConfig
  deriving DecidableEq, Repr

namespace DatabaseConfig

def fileUrl (path : String) : String :=
  "sqlite://" ++ path ++ "?mode=rwc"

/-- The address of a private database in memory. -/
def memoryUrl : String :=
  "sqlite::memory:"

def defaultPath : String :=
  "./stations.db"

def connectionUrl (c : DatabaseConfig) : String :=
  c.url.getD (fileUrl c.path)

end DatabaseConfig

namespace AdminConfig

def defaultPassword : String :=
  "admin"

def usesDefaultPassword (c : AdminConfig) : Bool :=
  c.password == defaultPassword

end AdminConfig

namespace Config

def default : Config where
  database := ⟨DatabaseConfig.defaultPath, none⟩
  logging := ⟨"info", "text"⟩
  admin := ⟨"admin", AdminConfig.defaultPassword⟩

/-- The text under a key of a section, `some none` when the document leaves it out. The position
is that of the key in a section written as an array. -/
def field? (section? : Option Toml.Value) (key : String) (position : Nat) :
    Option (Option String) :=
  let found : Option (Option Toml.Value) := match section? with
    | none | some .datetime => some none
    | some (.table entries) => some (entries.lookup key)
    | some (.array items) => some items[position]?
    | some _ => none
  match found with
  | some none => some none
  | some (some (.string s)) => some (some s)
  | _ => none

def ofDocument? (document : Toml.Document) : Option Config := do
  let database := document.lookup "database"
  let logging := document.lookup "logging"
  let admin := document.lookup "admin"
  let path ← field? database "path" 0
  let url ← field? database "url" 1
  let level ← field? logging "level" 0
  let format ← field? logging "format" 1
  let username ← field? admin "username" 0
  let password ← field? admin "password" 1
  return {
    database := ⟨path.getD default.database.path, url⟩
    logging := ⟨level.getD default.logging.level, format.getD default.logging.format⟩
    admin := ⟨username.getD default.admin.username, password.getD default.admin.password⟩ }

def ofText? (text : String) : Option Config :=
  (Toml.Document.ofText? text).bind ofDocument?

/-- What is found where a configuration file should be. -/
inductive Source where
  | missing
  /-- Something that cannot be read as a file. -/
  | unreadable
  | bytes (content : ByteArray)

inductive LoadError where
  | read
  | parse
  deriving DecidableEq, Repr

def LoadError.lead (path : String) : LoadError → String
  | .read => "Failed to read config file " ++ path ++ ": "
  | .parse => "Invalid config file " ++ path ++ ": "

/-- A missing file yields the defaults; a file that is there must be readable and valid. -/
def load : Source → Except LoadError Config
  | .missing => .ok default
  | .unreadable => .error .read
  | .bytes content =>
    match String.fromUTF8? content with
    | none => .error .read
    | some text =>
      match ofText? text with
      | none => .error .parse
      | some config => .ok config

def joined (base name : String) : String :=
  if base.isEmpty || base.toList.getLast? == some '/' then base ++ name
  else base ++ "/" ++ name

def isAbsolute (path : String) : Bool :=
  path.toList.head? == some '/'

/-- The directory for configurations. A home directory in a variable wins over the one that
belongs to the user's account, and the working directory is the last resort. -/
def directory (settings home accountHome : Option String) : String :=
  match settings.filter isAbsolute, home.filter (!·.isEmpty) <|> accountHome with
  | some path, _ => path
  | none, some home => joined home ".config"
  | none, none => "."

def pathVariable : String :=
  "STATION_REGISTRY_CONFIG"

def defaultPath (environment : String → Option String) (accountHome : Option String) : String :=
  match environment pathVariable with
  | some path => path
  | none =>
    let base := directory (environment "XDG_CONFIG_HOME") (environment "HOME") accountHome
    joined (joined base "station-registry") "config.toml"

end Config

end ChargingRegister
