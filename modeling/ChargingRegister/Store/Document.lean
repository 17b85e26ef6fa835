import ChargingRegister.Json.Basic
import ChargingRegister.Store.Database

/-!
# Databases as JSON documents

The form in which a database is kept between two runs: for each table null while there is none,
or else its rows and the highest number it ever held.
-/
namespace ChargingRegister

namespace StationRow

def toJson (r : StationRow) : Json :=
  .record [
    ("id", .ofInt r.id),
    ("last_updated", .string r.lastUpdated.written),
    ("location", .ofOption r.location),
    ("location_key", .ofOption r.locationKey),
    ("name", .string r.name),
    ("name_key", .string r.nameKey),
    ("status", .string r.status)]

def ofJson? (v : Json) : Option StationRow := do
  let members ← v.members?
  return {
    id := ← (← Json.field? "id" members).signedWord?
    name := ← (← Json.field? "name" members).text?
    location := ← (← Json.field? "location" members).orNull Json.text?
    nameKey := ← (← Json.field? "name_key" members).text?
    locationKey := ← (← Json.field? "location_key" members).orNull Json.text?
    status := ← (← Json.field? "status" members).text?
    lastUpdated := .ofText (← (← Json.field? "last_updated" members).text?) }

end StationRow

namespace Account

def toJson (a : Account) : Json :=
  .record [
    ("id", .ofInt a.id),
    ("password_hash", .string a.passwordHash),
    ("username", .string a.username)]

def ofJson? (v : Json) : Option Account := do
  let members ← v.members?
  return {
    id := ← (← Json.field? "id" members).signedWord?
    username := ← (← Json.field? "username" members).text?
    passwordHash := ← (← Json.field? "password_hash" members).text? }

end Account

namespace Table

def toJson {Row : Type} (row : Row → Json) (t : Table Row) : Json :=
  .record [("highest", .ofInt t.highest), ("rows", .array (t.rows.map row))]

def ofJson? {Row : Type} (row? : Json → Option Row) (v : Json) : Option (Table Row) := do
  let members ← v.members?
  let highest ← (← Json.field? "highest" members).signedWord?
  match ← Json.field? "rows" members with
  | .array items => return ⟨← items.mapM row?, highest⟩
  | _ => none

end Table

namespace Database

def tableJson {Row : Type} (row : Row → Json) : Option (Table Row) → Json
  | some t => t.toJson row
  | none => .null

def toJson (db : Database) : Json :=
  .record [
    ("accounts", tableJson Account.toJson db.accounts),
    ("stations", tableJson StationRow.toJson db.stations)]

def ofJson? (v : Json) : Option Database := do
  let members ← v.members?
  return {
    stations := ← (← Json.field? "stations" members).orNull (Table.ofJson? StationRow.ofJson?)
    accounts := ← (← Json.field? "accounts" members).orNull (Table.ofJson? Account.ofJson?) }

end Database

end ChargingRegister
