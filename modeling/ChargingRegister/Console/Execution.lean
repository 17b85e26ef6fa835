import ChargingRegister.Console.Command
import ChargingRegister.Console.Report
import ChargingRegister.Listing.Snapshot

/-!
# Carrying out a command

The register itself serves sessions of every mode. The console is the gate: a command that writes
is refused before the store is called unless the session may write.
-/
namespace ChargingRegister.Command

abbrev Result (α : Type) := Except RegistryError α

/-- The session has leave for what the command writes. -/
def gate (session : Session) (c : Command) : Result Unit :=
  match c.writes? with
  | some operation => session.checkCanMutate operation
  | none => .ok ()

theorem gate_of_canMutate {session : Session} (h : session.mode.canMutate = true) (c : Command) :
    c.gate session = .ok () := by
  unfold gate
  split
  · rw [Session.checkCanMutate, if_pos h]
  · rfl

def reporting {α : Type} (p : Program (Result α)) (report : α → Report) :
    Program (Result Report) :=
  p.bind fun answer => .done (answer.map report)

/-- Goes on with the record under a number, which must be there. -/
def withStation (id : Int) (next : Station → Program (Result Report)) :
    Program (Result Report) :=
  (Registry.find id).bind fun
    | .error e => .done (.error e)
    | .ok none => .done (.error (Registry.notFound id))
    | .ok (some station) => next station

/-- Reads a record, patches it and writes it back as a whole. -/
def patchStation (id : Int) (patch : Patch) : Program (Result Report) :=
  match Registry.checkId "update" id with
  | .error e => .done (.error e)
  | .ok () => withStation id fun station =>
    reporting (Registry.update (patch.apply station)) (.outcome "update" id)

/-- What a command does once the gate is passed. -/
def perform : Command → Program (Result Report)
  | .list text status => Snapshot.loadAll.bind fun snapshot =>
    .done (.ok (.stations (snapshot.filter text status) snapshot.size))
  | .search text => (Registry.search text).bind fun found =>
    .done (.ok (.stations found found.length))
  | .inspect id => withStation id fun station => .done (.ok (.station station))
  | .tally => Registry.statistics.bind fun counts => .done (.ok (.tally counts))
  | .statuses => .done (.ok .statuses)
  | .add name location status =>
    reporting (Registry.create (.draft name location status)) .station
  | .update id patch => patchStation id patch
  | .setStatus id status =>
    reporting (Registry.updateStatus id status) (.outcome "update_status" id)
  | .delete ids => (Removal.run ids).bind fun summary => .done (.ok (.removal summary))

def execute (session : Session) (c : Command) : Program (Result Report) :=
  match c.gate session with
  | .error e => .done (.error e)
  | .ok () => c.perform

end ChargingRegister.Command
