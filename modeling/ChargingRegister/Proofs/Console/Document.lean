import ChargingRegister.Console.Report
import ChargingRegister.Proofs.Station.Record

/-!
# Reports as documents

In JSON form every report is one document, and reading the document gives back the value that was
reported. A listing is an array of records, from which the stations themselves come back.
-/
namespace ChargingRegister

namespace Report

theorem exact_removalJson (r : Removal) : (removalJson r).Exact :=
  .entry (.list fun _ _ => .number _) <|
    .entry (.list fun _ _ => .entry (.string _) <| .entry (.number _) .noEntry) <|
      .entry (.list fun _ _ => .number _) .noEntry

theorem exact_sessionJson (s : Session) : (sessionJson s).Exact :=
  .entry (.string _) <| .entry (.string _) <| .entry (.string _) <| .entry (.ofOption _) .noEntry

theorem exact_toJson (r : Report) : r.toJson.Exact := by
  cases r with
  | stations shown total => exact .list fun s _ => s.exact_toJson
  | station s => exact s.exact_toJson
  | tally t =>
    refine .record fun m hm => ?_
    obtain ⟨e, -, rfl⟩ := List.mem_map.mp hm
    exact .number _
  | statuses => exact .list fun s _ => .entry (.string _) <| .entry (.string _) .noEntry
  | outcome operation id changed =>
    exact .entry (.bool _) <| .entry (.number _) <| .entry (.string _) .noEntry
  | removal r => exact exact_removalJson r
  | session s => exact exact_sessionJson s

theorem ofText?_render (r : Report) : Json.ofText? (r.render .json) = some r.toJson :=
  Json.ofText?_render r.exact_toJson "\n" (List.forall_mem_singleton.mpr rfl)

end Report

theorem Station.mapM_ofJson? {stations : List Station} (h : ∀ s ∈ stations, s.Exchangeable) :
    (stations.map toJson).mapM ofJson? = some stations := by
  induction stations with
  | nil => rfl
  | cons s ss ih =>
    obtain ⟨hs, hss⟩ := List.forall_mem_cons.mp h
    rw [List.map_cons, List.mapM_cons, ofJson?_toJson hs, ih hss]
    rfl

namespace Report

/-- A listing printed in JSON form is one array, and its elements are read as the stations listed,
in their order. -/
theorem printed_stations_read_back {stations : List Station}
    (h : ∀ s ∈ stations, s.Exchangeable) (total : Nat) :
    ∃ items, Json.ofText? ((Report.stations stations total).render .json) = some (.array items) ∧
      items.mapM Station.ofJson? = some stations :=
  ⟨stations.map Station.toJson, ofText?_render _, Station.mapM_ofJson? h⟩

def instantAt? (year : Int) (month day hour minute second nanosecond : Nat) : Option Instant := do
  let date ← Date.of? year month day
  let time ← TimeOfDay.of? hour minute second nanosecond
  return ⟨date, time⟩

/-- Stations at the edges of the exchange form: the least and the greatest number, a leap second
with and without a fraction, the first and the last year, escapes, and nothing where nothing has
to stand. -/
def edgeStations : List Station :=
  [⟨-0x8000000000000000, "\"North\\\u0000\u001f\n\t\u007f\"", some "", .available,
      instantAt? 2016 12 31 23 59 60 123456789⟩,
    ⟨0x7fffffffffffffff, "ǅ \u2028😀", none, .outOfService, instantAt? 0 2 29 0 0 60 0⟩,
    ⟨0, "", some "null", .charging, instantAt? 9999 12 31 23 59 59 500000000⟩,
    ⟨-1, "-0", some "\r\u0008\u000c", .available, none⟩]

theorem printed_edge_stations_read_back :
    (edgeStations.map (·.lastUpdated.isSome) = [true, true, true, false] ∧
      ∀ s ∈ edgeStations, s.Exchangeable) ∧
      ∃ items, Json.ofText? ((Report.stations edgeStations 7).render .json) = some (.array items) ∧
        items.mapM Station.ofJson? = some edgeStations :=
  ⟨by decide, printed_stations_read_back (by decide) 7⟩

end Report

end ChargingRegister
