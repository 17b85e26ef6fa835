import ChargingRegister.Console.Outcome
import ChargingRegister.Json.Reader
import ChargingRegister.Store.Document
import Std.Time.DateTime.Timestamp

/-!
# The console program

Reads what the console needs from the world, has the outcome computed, and writes it down. A
database file holds one JSON document.
-/
namespace ChargingRegister.Console

def readSource (path : String) : IO Config.Source := do
  try
    return .bytes (← IO.FS.readBinFile path)
  catch
    | .noFileOrDirectory .. => return .missing
    | _ => return .unreadable

/-- A volume with one file, which holds a database or something else. -/
def readVolume (path : String) : IO Volume := do
  let file := Path.resolve [] path
  let empty : Volume := ⟨[], [file.dropLast], []⟩
  match ← readSource path with
  | .missing => return empty
  | .unreadable => return { empty with directories := file :: empty.directories }
  | .bytes content =>
    match ((String.fromUTF8? content).bind Json.ofText?).bind Database.ofJson? with
    | some db => return empty.put file (.database db)
    | none => return empty.put file .other

def writeVolume (path : String) (before after : Volume) : IO Unit := do
  let file := Path.resolve [] path
  match after.lookup file with
  | some (.database db) =>
    if before.lookup file ≠ some (.database db) then
      IO.FS.writeFile path (db.toJson.render ++ "\n")
  | _ => return

def newSupply : IO Supply := do
  let time := (← Std.Time.Timestamp.now).val
  let now := Instant.ofEpoch time.second.val.toNat (Fin.ofNat _ time.nano.val.toNat)
  let random ← IO.getRandomBytes 32
  let number := (random.toList.drop 16).foldl (fun n b => n * 256 + b.toNat) 0
  return { ticket := ⟨.ofRandom number, now⟩, salt := Vector.ofFn fun i => random.toList.getD i 0 }

def readVariables : IO (List (String × String)) :=
  [Config.pathVariable, passwordVariable, "XDG_CONFIG_HOME", "HOME"].filterMapM fun name => do
    return (← IO.getEnv name).map fun value => (name, value)

def finish (o : Outcome) : IO UInt32 := do
  IO.print o.printed
  IO.eprint o.complaint
  return o.exitCode.toUInt32

def runProgram (args : List String) : IO UInt32 := do
  let given ← readVariables
  let environment (name : String) : Option String := given.lookup name
  match Invocation.ofArguments environment args with
  | .error e => finish (.ofUsageError e)
  | .ok inv =>
    let source ← readSource (inv.configPath environment none)
    let world : Surroundings := {
      environment
      accountHome := none
      configAt := fun _ => source
      supply := ← newSupply }
    match inv.databaseFile? (inv.configInForce (Config.load source)) with
    | none => finish (inv.outcome world ⟨[], [], []⟩).1
    | some file =>
      let before ← readVolume file
      let (o, after) := inv.outcome world before
      try
        writeVolume file before after
      catch _ => return ← finish (.ofResult inv.form (.error (Volume.failure Fault.cannotOpen.message)))
      finish o

end ChargingRegister.Console

def main (args : List String) : IO UInt32 :=
  ChargingRegister.Console.runProgram args
