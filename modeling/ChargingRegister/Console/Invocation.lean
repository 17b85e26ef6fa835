import ChargingRegister.Config
import ChargingRegister.Console.Command
import ChargingRegister.Console.Grammar

/-!
# Invocations of the console

Options for the whole console come first, then a command with arguments of its own. The command
is read to its end before the options in front of it are settled.
-/
namespace ChargingRegister.Console

structure Options where
  /-- Where the configuration is. -/
  config : Option String
  logLevel : Option String
  /-- Use a store in memory that lasts for this run only. -/
  memory : Bool
  noMigrate : Bool
  json : Bool
  user : Option String
  password : Option String
  /-- Show the configuration and do nothing else. -/
  check : Bool
  deriving DecidableEq

structure Invocation where
  options : Options
  command : Option Command
  deriving DecidableEq

structure CommandForm where
  name : String
  grammar : Grammar
  /-- Nothing, when a place is left open. -/
  command? : Bindings → Option Command

def helpSwitch : Switch :=
  ⟨"help", some 'h', none, .help⟩

def optional (name : String) (kind : ValueKind) : Switch :=
  ⟨name, none, none, .take kind⟩

def place (name : String) (kind : ValueKind) : Slot :=
  ⟨name, kind, false⟩

/-- The grammar of a command, which can always be asked for help. -/
def commandGrammar (switches : List Switch) (places : List Slot)
    (exclusive : List (String × String)) : Grammar where
  switches := switches ++ [helpSwitch]
  places := places
  commands := []
  exclusive := exclusive

def listForm : CommandForm where
  name := "list"
  grammar := commandGrammar [optional "text" .text, optional "status" .status] [] []
  command? b := some (.list ((b.text? "text").getD "") (b.status? "status"))

def searchForm : CommandForm where
  name := "search"
  grammar := commandGrammar [] [place "text" .text] []
  command? b := (b.text? "text").map .search

def showForm : CommandForm where
  name := "show"
  grammar := commandGrammar [] [place "id" .number] []
  command? b := (b.number? "id").map .inspect

def statsForm : CommandForm where
  name := "stats"
  grammar := commandGrammar [] [] []
  command? _ := some .tally

def statusesForm : CommandForm where
  name := "statuses"
  grammar := commandGrammar [] [] []
  command? _ := some .statuses

def addForm : CommandForm where
  name := "add"
  grammar := commandGrammar [optional "location" .text, optional "status" .status]
    [place "name" .text] []
  command? b := do
    let name ← b.text? "name"
    return .add name (b.text? "location") ((b.status? "status").getD .available)

def locationChange (b : Bindings) : LocationChange :=
  if b.has "clear-location" then .clear
  else match b.text? "location" with
    | some location => .set location
    | none => .keep

def updateForm : CommandForm where
  name := "update"
  grammar := commandGrammar
    [optional "name" .text, optional "location" .text, ⟨"clear-location", none, none, .raise⟩,
      optional "status" .status]
    [place "id" .number] [("location", "clear-location")]
  command? b := do
    let id ← b.number? "id"
    return .update id ⟨b.text? "name", locationChange b, b.status? "status"⟩

def setStatusForm : CommandForm where
  name := "set-status"
  grammar := commandGrammar [] [place "id" .number, place "status" .status] []
  command? b := do
    let id ← b.number? "id"
    let status ← b.status? "status"
    return .setStatus id status

def deleteForm : CommandForm where
  name := "delete"
  grammar := commandGrammar [] [⟨"ids", .number, true⟩] []
  command? b := if b.has "ids" then some (.delete (b.numbers "ids")) else none

def commandForms : List CommandForm :=
  [listForm, searchForm, showForm, statsForm, statusesForm, addForm, updateForm, setStatusForm,
    deleteForm]

/-- The name that asks for help, about the console or about one command. -/
def helpName : String :=
  "help"

def commandNames : List String :=
  commandForms.map (·.name) ++ [helpName]

def passwordVariable : String :=
  "STATION_REGISTRY_PASSWORD"

def mainGrammar : Grammar where
  switches := [
    ⟨"config", some 'c', some Config.pathVariable, .take .path⟩,
    ⟨"log-level", some 'l', none, .take .text⟩,
    ⟨"memory", none, none, .raise⟩,
    ⟨"no-migrate", none, none, .raise⟩,
    ⟨"json", none, none, .raise⟩,
    ⟨"user", some 'u', none, .take .text⟩,
    ⟨"password", none, some passwordVariable, .take .text⟩,
    ⟨"check", none, none, .raise⟩,
    helpSwitch,
    ⟨"version", some 'V', none, .version⟩]
  places := []
  commands := commandNames
  exclusive := []

namespace CommandForm

def read (f : CommandForm) (args : List String) : Except UsageError Command := do
  let r ← args.foldlM f.grammar.step Reading.start
  let b ← f.grammar.finish (fun _ => none) r
  match f.command? b with
  | some c => .ok c
  | none => .error .missingArgument

end CommandForm

/-- Help is given about the console or about a single name. -/
def helpAbout : List String → UsageError
  | [] => .helpRequest
  | name :: rest =>
    if !commandNames.contains name then .unknownCommand name
    else match rest with
      | [] => .helpRequest
      | text :: _ => .unknownCommand text

def readCommand (name : String) (args : List String) : Except UsageError Command :=
  if name = helpName then .error (helpAbout args)
  else match commandForms.find? (·.name == name) with
    | some f => f.read args
    | none => .error (.unknownCommand name)

/-- Reads options up to the name of a command, and then that command. -/
def readLine (r : Reading) : List String → Except UsageError (Reading × Option Command)
  | [] => .ok (r, none)
  | text :: rest =>
    if !r.trailing && !r.awaitsValue && commandNames.contains text then
      (readCommand text rest).map fun c => (r, some c)
    else do
      let r ← mainGrammar.step r text
      readLine r rest

namespace Options

def ofBindings (b : Bindings) : Options where
  config := b.text? "config"
  logLevel := b.text? "log-level"
  memory := b.has "memory"
  noMigrate := b.has "no-migrate"
  json := b.has "json"
  user := b.text? "user"
  password := b.text? "password"
  check := b.has "check"

end Options

namespace Invocation

def ofArguments (environment : String → Option String) (args : List String) :
    Except UsageError Invocation := do
  let (r, command) ← readLine .start args
  let b ← mainGrammar.finish environment r
  .ok ⟨.ofBindings b, command⟩

end Invocation

end ChargingRegister.Console
