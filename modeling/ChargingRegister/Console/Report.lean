import ChargingRegister.Listing
import ChargingRegister.Registry
import ChargingRegister.Session
import ChargingRegister.Station.Record

/-!
# Reports

What the console tells an operator, as lines of text or as one JSON document. A command that
succeeds makes exactly one report, and a command that fails makes none. In a table a text shorter
than its column is padded with blanks; a longer one is cut, and an ellipsis takes the last place of
the column. Widths count characters.
-/
namespace ChargingRegister

namespace Text

def padRight (width : Nat) (s : String) : String :=
  s ++ String.ofList (List.replicate (width - s.length) ' ')

def padLeft (width : Nat) (s : String) : String :=
  String.ofList (List.replicate (width - s.length) ' ') ++ s

/-- At most `width` characters, the last one an ellipsis when something was cut off. -/
def truncate (width : Nat) (s : String) : String :=
  if s.length ≤ width then s
  else String.ofList (s.toList.take (width - 1) ++ ['…'])

theorem length_padRight (width : Nat) (s : String) :
    (padRight width s).length = max width s.length := by
  rw [padRight, String.length_append, String.length_ofList, List.length_replicate]
  omega

theorem truncate_of_length_le {width : Nat} {s : String} (h : s.length ≤ width) :
    truncate width s = s :=
  if_pos h

theorem length_truncate_of_lt {width : Nat} {s : String} (h : width < s.length)
    (hw : 1 ≤ width) : (truncate width s).length = width := by
  have hlen : width - 1 ≤ s.toList.length := by
    rw [String.length_toList]
    omega
  rw [truncate, if_neg (Nat.not_le.2 h), String.length_ofList, List.length_append,
    List.length_take, Nat.min_eq_left hlen]
  exact Nat.sub_add_cancel hw

end Text

open Text

inductive Report where
  /-- Some stations out of a listing of `total`. -/
  | stations (shown : List Station) (total : Nat)
  | station (station : Station)
  | tally (counts : Tally)
  | statuses
  /-- Whether an operation on one record met it. -/
  | outcome (operation : String) (id : Int) (changed : Bool)
  | removal (summary : Removal)
  | session (session : Session)

namespace Report

inductive Form where
  | text
  | json
  deriving DecidableEq, Repr

/-- In place of something that is absent. -/
def absent : String :=
  "-"

def locationText (s : Station) : String :=
  s.location.getD absent

def lastUpdatedText (s : Station) : String :=
  (s.lastUpdated.map Instant.shown).getD absent

/-- The five columns of a listing. The last one is as wide as its text. -/
def columns (id name location status lastUpdated : String) : String :=
  padLeft 6 id ++ "  " ++ padRight 28 name ++ "  " ++ padRight 24 location ++ "  " ++
    padRight 15 status ++ "  " ++ lastUpdated

def header : String :=
  columns "ID" "NAME" "LOCATION" "STATUS" "LAST UPDATED"

def row (s : Station) : String :=
  columns (Decimal.ofInt s.id) (truncate 28 s.name) (truncate 24 (locationText s))
    s.status.label (lastUpdatedText s)

def countLine (shown total : Nat) : String :=
  if shown = total then Decimal.ofNat total ++ " station(s)"
  else Decimal.ofNat shown ++ " of " ++ Decimal.ofNat total ++ " station(s)"

def stationsLines (shown : List Station) (total : Nat) : List String :=
  if shown.isEmpty then ["No stations found."]
  else header :: shown.map row ++ ["", countLine shown.length total]

def stationLines (s : Station) : List String :=
  ["Station #" ++ Decimal.ofInt s.id,
    "   Name         : " ++ s.name,
    "   Location     : " ++ locationText s,
    "   Status       : " ++ s.status.label,
    "   Last updated : " ++ lastUpdatedText s]

def countRow (label : String) (count : Nat) : String :=
  padRight 16 label ++ padLeft 6 (Decimal.ofNat count)

def tallyLines (t : Tally) : List String :=
  Status.all.map (fun s => countRow s.label (t.count s)) ++ [countRow "Total" t.total]

def statusesLines : List String :=
  Status.all.map fun s => padRight 16 s.token ++ s.label

def outcomeLine (operation : String) (id : Int) (changed : Bool) : String :=
  let subject := operation ++ ": station #" ++ Decimal.ofInt id
  if changed then subject ++ " done" else subject ++ " not found, nothing changed"

def removalLines (r : Removal) : List String :=
  r.missing.map (fun id => "delete: station #" ++ Decimal.ofInt id ++ " not found") ++
    r.failed.map (fun f => "delete: station #" ++ Decimal.ofInt f.1 ++ " failed: " ++ f.2.message) ++
    [if r.isComplete then Decimal.ofNat r.deleted.length ++ " station(s) deleted"
    else Decimal.ofNat r.deleted.length ++ " deleted, " ++
      Decimal.ofNat (r.missing.length + r.failed.length) ++ " failed"]

def sessionLines (s : Session) : List String :=
  ("Session " ++ s.id.toText ++ " (" ++ s.mode.name ++ ")") ::
    s.username.toList.map ("   Signed in as " ++ ·)

def lines : Report → List String
  | .stations shown total => stationsLines shown total
  | .station s => stationLines s
  | .tally t => tallyLines t
  | .statuses => statusesLines
  | .outcome operation id changed => [outcomeLine operation id changed]
  | .removal r => removalLines r
  | .session s => sessionLines s

def removalJson (r : Removal) : Json :=
  .record [
    ("deleted", .array (r.deleted.map .ofInt)),
    ("failed", .array (r.failed.map fun f =>
      .record [("error", .string f.2.message), ("id", .ofInt f.1)])),
    ("missing", .array (r.missing.map .ofInt))]

def sessionJson (s : Session) : Json :=
  .record [
    ("id", .string s.id.toText),
    ("mode", .string s.mode.name),
    ("started_at", .string s.startedAt.written),
    ("username", .ofOption s.username)]

/-- The report as one value; the members of each object are sorted by their keys. -/
def toJson : Report → Json
  | .stations shown _ => .array (shown.map Station.toJson)
  | .station s => s.toJson
  | .tally t => .record (t.entries.map fun e => (e.1, .ofInt e.2))
  | .statuses => .array (Status.all.map fun s =>
      .record [("label", .string s.label), ("token", .string s.token)])
  | .outcome operation id changed =>
    .record [("changed", .bool changed), ("id", .ofInt id), ("operation", .string operation)]
  | .removal r => removalJson r
  | .session s => sessionJson s

def ofLines (lines : List String) : String :=
  String.join (lines.map (· ++ "\n"))

def render : Form → Report → String
  | .text, r => ofLines r.lines
  | .json, r => r.toJson.render ++ "\n"

end Report

end ChargingRegister
