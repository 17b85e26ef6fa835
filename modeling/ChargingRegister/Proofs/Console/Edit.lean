import ChargingRegister.Proofs.Console.Execution

/-!
# Editing a station

An edit reads the record under a number, puts the named fields into it and writes the whole record
back. What is written differs from what was read in those fields and in the time of the write, and
the number, the other fields and the other records stay as they were. The number is judged first,
then the record must be there, then the name that comes out of the edit must not be blank.
-/
namespace ChargingRegister

namespace Patch

/-- The fields of the one record are those of the other, with the named ones replaced. The time of
the last write is left open. -/
structure Edits (p : Patch) (old new : Station) : Prop where
  id : new.id = old.id
  name_named : ∀ name, p.name = some name → new.name = name
  name_kept : p.name = none → new.name = old.name
  location_named : ∀ location, p.location = .set location → new.location = some location
  location_cleared : p.location = .clear → new.location = none
  location_kept : p.location = .keep → new.location = old.location
  status_named : ∀ status, p.status = some status → new.status = status
  status_kept : p.status = none → new.status = old.status

def written (p : Patch) (now : Instant) (old : Station) : Station :=
  { p.apply old with lastUpdated := some now }

theorem edits_written (p : Patch) (now : Instant) (old : Station) :
    p.Edits old (p.written now old) where
  id := rfl
  name_named name h := by simp [written, apply, h]
  name_kept h := by simp [written, apply, h]
  location_named location h := by simp [written, apply, locationOf, h]
  location_cleared h := by simp [written, apply, locationOf, h]
  location_kept h := by simp [written, apply, locationOf, h]
  status_named status h := by simp [written, apply, h]
  status_kept h := by simp [written, apply, h]

end Patch

namespace MemoryStore

section

variable {m : MemoryStore} {id : Int} {old : Station} (h : m.lookup id = some old) (p : Patch)
  (now : Instant)

include h

theorem stations_written : (handle now (.update (p.apply old)) m).2.stations =
    m.stations.map fun r => if r.id = id then p.written now old else r := by
  obtain rfl := id_of_lookup h
  rfl

theorem lookup_written (other : Int) : (handle now (.update (p.apply old)) m).2.lookup other =
    if other = id then some (p.written now old) else m.lookup other := by
  obtain rfl := id_of_lookup h
  rw [lookup_update, Patch.id_apply]
  split
  case isTrue heq =>
    rw [heq, h]
    rfl
  case isFalse => rfl

end

end MemoryStore

/-- A store that wrote an edit shows the written record in place of the one that was read. -/
theorem Store.shows_written {s : Store} (hs : s.Rows StationRow.Legible) (now : Instant)
    (p : Patch) {id : Int} {old : Station} (h : s.view.lookup id = some old) :
    let after := (handle now (.update (p.apply old)) s).2
    after.Rows StationRow.Legible ∧
      after.view.stations =
        (s.view.stations.map fun r => if r.id = id then p.written now old else r) ∧
      ∀ other, after.view.lookup other =
        if other = id then some (p.written now old) else s.view.lookup other := by
  intro after
  have hview : after.view = (MemoryStore.handle now (.update (p.apply old)) s.view).2 :=
    (handle_view_of_legible hs (by simp [StoreOp.kind]) now).2
  rw [hview]
  exact ⟨rows_handle (fun r number => StationRow.legible_ofStation number now r) hs _,
    MemoryStore.stations_written h p now, MemoryStore.lookup_written h p now⟩

namespace Command

open Registry

section

variable {id : Int} (hid : 0 < id) {s : Store} (hs : s.Rows StationRow.Legible) (now : Instant)
  (patch : Patch) {old : Station} (hold : s.view.lookup id = some old)

include hid hs hold

theorem run_update_of_blank (hname : Text.blank (patch.name.getD old.name) = true) :
    (update id patch).perform.run (Store.handle now) s = (.error (blankName "update"), s) := by
  have hpos : 0 < (patch.apply old).id := by
    rw [Patch.id_apply, MemoryStore.id_of_lookup hold]
    exact hid
  rw [perform_update_of_pos hid, run_withStation_of_some hid hs now hold,
    update_of_blank hpos hname]
  rfl

theorem run_update_of_named (hname : Text.blank (patch.name.getD old.name) = false) :
    (update id patch).perform.run (Store.handle now) s =
      (.ok (.outcome "update" id true), (Store.handle now (.update (patch.apply old)) s).2) := by
  have hnumber : (patch.apply old).id = id :=
    (patch.id_apply old).trans (MemoryStore.id_of_lookup hold)
  have hpos : 0 < (patch.apply old).id := by
    rw [hnumber]
    exact hid
  have hreply : (Store.handle now (.update (patch.apply old)) s).1 = .ok true := by
    rw [(Store.handle_view_of_legible hs (by simp [StoreOp.kind]) now).1,
      MemoryStore.handle_update, hnumber, hold]
    rfl
  rw [perform_update_of_pos hid, run_withStation_of_some hid hs now hold,
    update_of_named hpos hname, reporting, Program.run_bind, Program.run_perform, hreply]
  rfl

end

/-- An administrator's edit over a store of either kind whose times can be read. A number that is
not positive is refused without a call, one that no record has is not found, and a blank name that
would come out of the edit is refused, all without a change. Otherwise the edit reports a change;
the record, as it is shown from then on, has the named fields replaced and the time of the write,
and everything else is as before. -/
theorem update_edits_named_fields {session : Session} (hmode : session.mode = .administrator)
    {s : Store} (hs : s.Rows StationRow.Legible) (now : Instant) (id : Int) (patch : Patch) :
    let program := (update id patch).execute session
    let after := program.run (Store.handle now) s
    (id ≤ 0 → program = .done (.error (badId "update" id))) ∧
    (0 < id → s.view.lookup id = none → after.1 = .error (notFound id)) ∧
    (∀ old, 0 < id → s.view.lookup id = some old →
      Text.blank (patch.name.getD old.name) = true → after.1 = .error (blankName "update")) ∧
    (∀ old, 0 < id → s.view.lookup id = some old →
      Text.blank (patch.name.getD old.name) = false →
      after.1 = .ok (.outcome "update" id true) ∧
      ∃ new, patch.Edits old new ∧ new.lastUpdated = some now ∧
        after.2.view.stations = (s.view.stations.map fun r => if r.id = id then new else r) ∧
        (∀ other, after.2.view.lookup other =
          if other = id then some new else s.view.lookup other) ∧
        ∀ reader later, ((inspect id).execute reader).run (Store.handle later) after.2 =
          (.ok (.station new), after.2)) ∧
    ∀ e, after.1 = .error e → after.2 = s := by
  intro program after
  have hprogram : program = (update id patch).perform := execute_of_administrator hmode _
  -- one equation of the whole run for each of the four outcomes
  have hnonpos : id ≤ 0 → program = .done (.error (badId "update" id)) := fun hid =>
    hprogram.trans (perform_update_of_nonpos hid patch)
  have habsent : 0 < id → s.view.lookup id = none → after = (.error (notFound id), s) := by
    intro hid hnone
    show program.run _ s = _
    rw [hprogram, perform_update_of_pos hid, run_withStation_of_none hid hs now hnone]
  have hblank : ∀ old, 0 < id → s.view.lookup id = some old →
      Text.blank (patch.name.getD old.name) = true → after = (.error (blankName "update"), s) := by
    intro old hid hold hname
    show program.run _ s = _
    rw [hprogram, run_update_of_blank hid hs now patch hold hname]
  have hnamed : ∀ old, 0 < id → s.view.lookup id = some old →
      Text.blank (patch.name.getD old.name) = false → after =
        (.ok (.outcome "update" id true), (Store.handle now (.update (patch.apply old)) s).2) := by
    intro old hid hold hname
    show program.run _ s = _
    rw [hprogram, run_update_of_named hid hs now patch hold hname]
  refine ⟨hnonpos, fun hid hnone => congrArg Prod.fst (habsent hid hnone),
    fun old hid hold hname => congrArg Prod.fst (hblank old hid hold hname), ?_, ?_⟩
  · intro old hid hold hname
    obtain ⟨hrows, hstations, hlookup⟩ := Store.shows_written hs now patch hold
    have hfound := (hlookup id).trans (if_pos rfl)
    rw [hnamed old hid hold hname]
    refine ⟨rfl, patch.written now old, patch.edits_written now old, rfl, hstations, hlookup,
      fun reader later => ?_⟩
    rw [execute_inspect, run_withStation_of_some hid hrows later hfound]
    rfl
  -- an error is one of the first three outcomes
  · intro e herror
    rcases Int.lt_or_le 0 id with hid | hid
    · cases hfound : s.view.lookup id with
      | none => rw [habsent hid hfound]
      | some old =>
        cases hname : Text.blank (patch.name.getD old.name) with
        | true => rw [hblank old hid hfound hname]
        | false =>
          rw [hnamed old hid hfound hname] at herror
          cases herror
    · show (program.run _ s).2 = s
      rw [hnonpos hid]
      rfl

/-- A record of a database, renamed and without its location. -/
theorem update_edits_name_and_location :
    let session := Session.administrator ⟨⟨0⟩, .ofEpoch 0 0⟩ "root"
    let row : StationRow := .ofStation 3 (.ofEpoch 0 0) (.draft "a" (some "b") .charging)
    let s : Store := .database ⟨some ⟨[row], 3⟩, some .empty⟩
    let after := ((update 3 ⟨some "c", .clear, none⟩).execute session).run
      (Store.handle (.ofEpoch 1 0)) s
    after.1 = .ok (.outcome "update" 3 true) ∧
      ∃ new, after.2.view.lookup 3 = some new ∧ new.name = "c" ∧ new.location = none ∧
        new.status = .charging ∧ new.lastUpdated = some (.ofEpoch 1 0) := by
  intro session row s after
  have hlegible : s.Rows StationRow.Legible := by
    refine ⟨_, _, rfl, fun r hr => ?_⟩
    rw [List.mem_singleton.mp hr]
    exact StationRow.legible_ofStation _ _ _
  have hstatus : row.station.status = .charging := by
    rw [StationRow.station_ofStation]
    rfl
  have hmode : session.mode = .administrator := rfl
  obtain ⟨-, -, -, hnamed, -⟩ := update_edits_named_fields hmode hlegible (.ofEpoch 1 0) 3
    ⟨some "c", .clear, none⟩
  obtain ⟨hreport, new, hedits, htime, -, hlookup, -⟩ :=
    hnamed row.station (by decide) rfl (by decide)
  exact ⟨hreport, new, hlookup 3, hedits.name_named "c" rfl, hedits.location_cleared rfl,
    (hedits.status_kept rfl).trans hstatus, htime⟩

/-- An edit that names no field changes the record nevertheless. -/
theorem update_restamps_record :
    let session := Session.administrator ⟨⟨0⟩, .ofEpoch 0 0⟩ "root"
    let old : Station := ⟨1, "a", none, .available, some (.ofEpoch 0 0)⟩
    let s : Store := .memory ⟨[old], 2, [], 1⟩
    let after := ((update 1 ⟨none, .keep, none⟩).execute session).run
      (Store.handle (.ofEpoch 1 0)) s
    after.1 = .ok (.outcome "update" 1 true) ∧
      after.2.view.lookup 1 = some { old with lastUpdated := some (.ofEpoch 1 0) } ∧
      after.2.view.lookup 1 ≠ some old := by
  refine ⟨rfl, rfl, ?_⟩
  decide

end Command

end ChargingRegister
