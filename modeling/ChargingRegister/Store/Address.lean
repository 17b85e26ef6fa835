import ChargingRegister.Store.Fault
import ChargingRegister.Text.Printable
import ChargingRegister.Url.Scheme

/-!
# Addresses of databases

An address is a URL. Its scheme must be `sqlite`; what follows is the name of a database, in which
percent signs are decoded, and parameters that tell how it is opened. An address that is no URL
and one with another scheme are told apart.
-/
namespace ChargingRegister

structure Address where
  /-- A file, or what the rules of names make of it. -/
  name : String
  readOnly : Bool
  create : Bool
  /-- No one changes the database while it is open. -/
  immutable : Bool
  /-- How files are kept, unless in the common way. -/
  backend : Option String
  deriving DecidableEq, Repr

inductive AddressError where
  /-- Not a URL. -/
  | unparsable (url : String)
  /-- A URL for something else than this kind of database. -/
  | unsupported (url : String)
  /-- A name that is no text. -/
  | undecodable (flaw : Utf8.Flaw)
  /-- A parameter with an unknown value or an unknown name. -/
  | unknownValue (name value : String)
  | unknownParameter (name : String)
  /-- A name that would end too early. -/
  | nullInName
  | fault (fault : Fault)
  deriving DecidableEq, Repr

def AddressError.message : AddressError → String
  | .unparsable url => "The connection string '" ++ url ++ "' cannot be parsed."
  | .unsupported url => "The connection string '" ++ url ++ "' has no supporting driver."
  | .undecodable flaw => "error with configuration: " ++ flaw.message
  | .unknownValue name value =>
    "error with configuration: unknown value " ++ Text.quoted value ++ " for `" ++ name ++ "`"
  | .unknownParameter name =>
    "error with configuration: unknown query parameter `" ++ name ++
      "` while parsing connection URL"
  | .nullInName =>
    "error communicating with database: filename passed to SQLite must not contain nul bytes"
  | .fault f => f.message

namespace Address

/-- The name of a database in memory, gone when it is closed. -/
def memoryName : String :=
  ":memory:"

/-- Leaves a leading part out, as often as it stands there. -/
def dropLead (lead : List Char) (cs : List Char) : List Char :=
  if _h : lead ≠ [] ∧ lead.isPrefixOf cs then dropLead lead (cs.drop lead.length) else cs
termination_by cs.length
decreasing_by
  have hle := (List.isPrefixOf_iff_prefix.1 _h.2).length_le
  have hpos := List.length_pos_iff.2 _h.1
  simp only [List.length_drop]
  omega

def withParameter (a : Address) : String × String → Except AddressError Address
  | ("mode", value) =>
    match value with
    | "ro" => .ok { a with readOnly := true }
    | "rw" => .ok a
    | "rwc" => .ok { a with create := true }
    | "memory" => .ok { a with name := memoryName }
    | value => .error (.unknownValue "mode" value)
  | ("cache", value) =>
    if value == "private" || value == "shared" then .ok a
    else .error (.unknownValue "cache" value)
  | ("immutable", value) =>
    if value == "true" || value == "1" then .ok { a with immutable := true }
    else if value == "false" || value == "0" then .ok { a with immutable := false }
    else .error (.unknownValue "immutable" value)
  | ("vfs", value) => .ok { a with backend := some value }
  | (name, _) => .error (.unknownParameter name)

def ofPath (cs : List Char) : Except AddressError Address := do
  let (name, query) := Url.cut '?' cs
  let name ← (Utf8.decode? (Url.percentDecoded name)).mapError .undecodable
  (Url.parameters query).foldlM withParameter ⟨String.ofList name, false, false, false, none⟩

def ofUrl (url : String) : Except AddressError Address :=
  match Url.scheme? url with
  | none => .error (.unparsable url)
  | some "sqlite" =>
    ofPath (dropLead "sqlite:".toList (dropLead "sqlite://".toList url.toList))
  | some _ => .error (.unsupported url)

end Address

end ChargingRegister
