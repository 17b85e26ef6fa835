import ChargingRegister.Decimal
import ChargingRegister.Listing
import ChargingRegister.Store.Operation

/-!
# The register of stations

The calls that clients make, as programs over a store. Input is checked before the store is
called, with one exception: changing a status reads the record first and then writes it back as a
whole. Calls for one record report the failures of the store; calls for a listing answer with an
empty one instead. When several stations are removed, every number is tried, in the order given,
whatever became of those before it.
-/
namespace ChargingRegister

namespace Registry

abbrev Result (α : Type) := Except RegistryError α

def checkName (operation name : String) : Result Unit :=
  if Text.blank name then .error (.invalidInput operation "station name must not be empty")
  else .ok ()

def checkId (operation : String) (id : Int) : Result Unit :=
  if id ≤ 0 then
    .error (.invalidInput operation ("station id must be positive, got " ++ Decimal.ofInt id))
  else .ok ()

def notFound (id : Int) : RegistryError :=
  .notFound "Station" "id" (Decimal.ofInt id)

/-- Adds a record. The store gives it a number and a time stamp. -/
def create (station : Station) : Program (Result Station) :=
  match checkName "create" station.name with
  | .error e => .done (.error e)
  | .ok () => .perform (.insert station)

def update (station : Station) : Program (Result Bool) :=
  match checkId "update" station.id with
  | .error e => .done (.error e)
  | .ok () =>
    match checkName "update" station.name with
    | .error e => .done (.error e)
    | .ok () => .perform (.update station)

/-- Reads a record and writes it back with another status. -/
def updateStatus (id : Int) (status : Status) : Program (Result Bool) :=
  match checkId "update_status" id with
  | .error e => .done (.error e)
  | .ok () => .call (.findById id) fun
    | .error e => .done (.error e)
    | .ok none => .done (.error (notFound id))
    | .ok (some station) => update { station with status }

def delete (id : Int) : Program (Result Bool) :=
  match checkId "delete" id with
  | .error e => .done (.error e)
  | .ok () => .perform (.delete id)

/-- Numbers that are not positive belong to no record. -/
def find (id : Int) : Program (Result (Option Station)) :=
  if id ≤ 0 then .done (.ok none) else .perform (.findById id)

/-- An empty listing in place of a failure. -/
def orNone (reply : Result (List Station)) : List Station :=
  match reply with
  | .ok stations => stations
  | .error _ => []

def findAll : Program (List Station) :=
  .call .findAll fun reply => .done (orNone reply)

/-- The stations that contain a text in any case; a blank text finds all. -/
def search (text : String) : Program (List Station) :=
  if Text.blank text then findAll
  else .call (.search (Text.trim text)) fun reply => .done (orNone reply)

def statistics : Program Tally :=
  findAll.bind fun stations => .done (.ofStations stations)

end Registry

structure Removal where
  deleted : List Int
  /-- No record had the number. -/
  missing : List Int
  failed : List (Int × RegistryError)
  deriving DecidableEq

namespace Removal

def empty : Removal :=
  ⟨[], [], []⟩

def isComplete (r : Removal) : Bool :=
  r.missing.isEmpty && r.failed.isEmpty

def note (r : Removal) (id : Int) : Registry.Result Bool → Removal
  | .ok true => { r with deleted := r.deleted ++ [id] }
  | .ok false => { r with missing := r.missing ++ [id] }
  | .error e => { r with failed := r.failed ++ [(id, e)] }

def runFrom (done : Removal) : List Int → Program Removal
  | [] => .done done
  | id :: ids => (Registry.delete id).bind fun outcome => runFrom (done.note id outcome) ids

def run (ids : List Int) : Program Removal :=
  runFrom empty ids

end Removal

end ChargingRegister
