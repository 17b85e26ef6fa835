import ChargingRegister.Station

/-!
# Commands

What an operator can ask the console for. Four commands write, and each of them names the
operation for which the session must be allowed.
-/
namespace ChargingRegister

inductive LocationChange where
  | keep
  | clear
  | set (location : String)
  deriving DecidableEq, Repr

/-- Changes to some fields of a station; the others keep their values. -/
structure Patch where
  name : Option String
  location : LocationChange
  status : Option Status
  deriving DecidableEq, Repr

namespace Patch

def locationOf (p : Patch) (old : Option String) : Option String :=
  match p.location with
  | .keep => old
  | .clear => none
  | .set location => some location

def apply (p : Patch) (s : Station) : Station :=
  { s with
    name := p.name.getD s.name
    location := p.locationOf s.location
    status := p.status.getD s.status }

@[simp] theorem id_apply (p : Patch) (s : Station) : (p.apply s).id = s.id := rfl

end Patch

inductive Command where
  /-- The stations that contain a text and have a status. -/
  | list (text : String) (status : Option Status)
  | search (text : String)
  | inspect (id : Int)
  | tally
  | statuses
  | add (name : String) (location : Option String) (status : Status)
  | update (id : Int) (patch : Patch)
  | setStatus (id : Int) (status : Status)
  | delete (ids : List Int)
  deriving DecidableEq, Repr

def Command.writes? : Command → Option String
  | .add .. => some "create"
  | .update .. => some "update"
  | .setStatus .. => some "update_status"
  | .delete _ => some "delete"
  | .list .. | .search _ | .inspect _ | .tally | .statuses => none

end ChargingRegister
