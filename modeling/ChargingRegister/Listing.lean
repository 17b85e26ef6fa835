import ChargingRegister.Station

/-!
# Narrowing and counting a listing

A filter keeps the stations that contain a text, in any case, and that have a status. A tally counts
stations by status. Both work on a listing that is already loaded, and a filter keeps its order.
-/
namespace ChargingRegister

structure Filter where
  /-- Lowercase and without blanks at its ends; an empty text keeps everything. -/
  text : String
  status : Option Status
  deriving DecidableEq

namespace Filter

def make (text : String) (status : Option Status) : Filter :=
  ⟨Text.lowercase (Text.trim text), status⟩

def isEmpty (f : Filter) : Bool :=
  f.text.isEmpty && f.status.isNone

def keeps (f : Filter) (s : Station) : Bool :=
  (f.text.isEmpty || s.matchesText f.text) && f.status.all (s.status == ·)

def apply (f : Filter) (stations : List Station) : List Station :=
  stations.filter f.keeps

@[simp] theorem apply_apply (f : Filter) (stations : List Station) :
    f.apply (f.apply stations) = f.apply stations := by
  simp [apply]

end Filter

structure Tally where
  available : Nat
  charging : Nat
  outOfService : Nat
  total : Nat
  deriving DecidableEq, Repr

namespace Tally

def countOf (status : Status) (stations : List Station) : Nat :=
  stations.countP (·.status == status)

def ofStations (stations : List Station) : Tally :=
  ⟨countOf .available stations, countOf .charging stations, countOf .outOfService stations,
    stations.length⟩

def count (t : Tally) : Status → Nat
  | .available => t.available
  | .charging => t.charging
  | .outOfService => t.outOfService

def totalKey : String :=
  "TOTAL"

def entries (t : Tally) : List (String × Nat) :=
  Status.all.map (fun s => (s.token, t.count s)) ++ [(totalKey, t.total)]

@[simp] theorem count_ofStations (stations : List Station) (s : Status) :
    (ofStations stations).count s = countOf s stations := by
  cases s <;> rfl

end Tally

end ChargingRegister
