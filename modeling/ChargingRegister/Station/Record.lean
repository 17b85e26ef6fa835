import ChargingRegister.Calendar.Timestamp
import ChargingRegister.Json.Basic
import ChargingRegister.Station

/-!
# Stations as JSON records

A record is written as an object with sorted keys. Reading takes an object in which each known
key stands at most once, beside any others, or an array of exactly the five fields in their order
of declaration. Place and time stamp may be absent.
-/
namespace ChargingRegister.Station

def toJson (s : Station) : Json :=
  .record [
    ("id", .ofInt s.id),
    ("last_updated", .ofOption (s.lastUpdated.map Instant.written)),
    ("location", .ofOption s.location),
    ("name", .string s.name),
    ("status", .string s.status.name)]

/-- The name of a status, or an object whose only key is that name and whose value is null. -/
def status? : Json → Option Status
  | .string s => Status.ofName? s
  | .object [(some s, .null)] => Status.ofName? s
  | _ => none

def instant? (v : Json) : Option Instant :=
  v.text?.bind Instant.ofText?

def ofFields? (id name location status lastUpdated : Json) : Option Station := do
  return {
    id := ← id.signedWord?
    name := ← name.text?
    location := ← location.orNull Json.text?
    status := ← status? status
    lastUpdated := ← lastUpdated.orNull instant? }

def ofJson? : Json → Option Station
  | .array [id, name, location, status, lastUpdated] =>
    ofFields? id name location status lastUpdated
  | v => do
    let members ← v.members?
    ofFields? (← Json.field? "id" members) (← Json.field? "name" members)
      (← Json.field? "location" members) (← Json.field? "status" members)
      (← Json.field? "last_updated" members)

end ChargingRegister.Station
