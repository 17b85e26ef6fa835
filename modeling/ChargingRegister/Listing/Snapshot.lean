import ChargingRegister.Listing
import ChargingRegister.Registry

/-!
# The last listing loaded

A snapshot goes stale as the store changes. It is loaded anew as a whole, and a change of status
that the store has accepted can be noted in it without loading.
-/
namespace ChargingRegister

structure Snapshot where
  stations : List Station
  deriving DecidableEq

namespace Snapshot

def empty : Snapshot :=
  ⟨[]⟩

def loadAll : Program Snapshot :=
  Registry.findAll.bind fun stations => .done ⟨stations⟩

def loadSearch (text : String) : Program Snapshot :=
  (Registry.search text).bind fun stations => .done ⟨stations⟩

def size (s : Snapshot) : Nat :=
  s.stations.length

def filter (s : Snapshot) (text : String) (status : Option Status) : List Station :=
  (Filter.make text status).apply s.stations

def contains (s : Snapshot) (id : Int) : Bool :=
  s.stations.any (·.id == id)

def changeFirst (test : Station → Bool) (change : Station → Station) :
    List Station → List Station
  | [] => []
  | s :: rest => if test s then change s :: rest else s :: changeFirst test change rest

/-- Notes a change of status; nothing changes when the number is not in the snapshot. -/
def noteStatus (s : Snapshot) (id : Int) (status : Status) : Snapshot :=
  ⟨changeFirst (·.id == id) (fun station => { station with status }) s.stations⟩

def tally (s : Snapshot) : Tally :=
  .ofStations s.stations

end Snapshot

end ChargingRegister
