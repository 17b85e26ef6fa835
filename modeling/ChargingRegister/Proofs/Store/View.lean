import ChargingRegister.Proofs.Listing.Search
import ChargingRegister.Proofs.Store.Refusal

/-!
# The store in memory that a store is or shows

A store in memory shows itself, and a database shows the store in memory that would hold the same.
A database refuses an operation or goes on to show what that store would hold, whatever is in its
rows. With rows as a write puts them it also replies the same, and so do whole programs that read
and rewrite records.
-/
namespace ChargingRegister

/-- What a database shows after an operation is what it showed, or what the store in memory that
it showed would hold. -/
theorem Database.view_handle (now : Instant) (op : StoreOp) (db : Database) :
    (handle now op db).2.view = db.view ∨
      (handle now op db).2.view = (MemoryStore.handle now op db.view).2 := by
  obtain ⟨t, u⟩ := db
  -- nothing changes when the table is missing, or no number is left in it
  cases op with
  | insert s =>
    cases t with
    | none => exact .inl rfl
    | some t =>
      by_cases hroom : t.highest < Table.maxNumber
      · refine .inr ?_
        simp [handle, onStations, insertStation_of_lt hroom, MemoryStore.handle, view]
      · refine .inl ?_
        simp [handle, onStations, insertStation, Table.nextNumber?, hroom]
  | update s =>
    cases t with
    | none => exact .inl rfl
    | some t =>
      refine .inr ?_
      simp [handle, onStations, MemoryStore.handle, view, map_station_updateRows]
  | delete id =>
    cases t with
    | none => exact .inl rfl
    | some t =>
      have hleft : (t.rows.map StationRow.station).filter (·.id != id) =
          (t.rows.filter (·.id != id)).map StationRow.station := List.filter_map
      refine .inr ?_
      simp [handle, onStations, MemoryStore.handle, view, hleft]
  | createAccount username passwordHash =>
    cases u with
    | none => exact .inl rfl
    | some u =>
      by_cases hroom : u.highest < Table.maxNumber
      · refine .inr ?_
        by_cases htaken : u.rows.any (·.username == username) <;>
          simp [handle, onAccounts, insertAccount_of_lt hroom, MemoryStore.handle, view, htaken]
      · refine .inl ?_
        by_cases htaken : u.rows.any (·.username == username) <;>
          simp [handle, onAccounts, insertAccount, Table.nextNumber?, hroom, htaken]
  | findById | findAll | search | findAccount | countAccounts =>
    exact .inl (congrArg view (handle_of_reads rfl now _))

theorem StationRow.eq_station_of_read {r : StationRow} {s : Station} (h : r.read = .ok s) :
    s = r.station := by
  rw [read] at h
  rw [station]
  cases ht : r.lastUpdated with
  | instant i =>
    rw [ht] at h
    exact (Except.ok.inj h).symm
  | illegible text =>
    rw [ht] at h
    cases h

namespace Store

def isDatabase : Store → Bool
  | .memory _ => false
  | .database _ => true

theorem isDatabase_handle (now : Instant) (op : StoreOp) (s : Store) :
    (handle now op s).2.isDatabase = s.isDatabase := by
  cases s <;> rfl

theorem elim_isDatabase_memory {m : MemoryStore} {p : Prop} : (memory m).isDatabase = true → p :=
  fun h => absurd h Bool.false_ne_true

theorem isDatabase_runCalls (clock : Clock) (ops : List StoreOp) (s : Store) :
    (runCalls handle clock ops s).2.isDatabase = s.isDatabase :=
  runCalls_preserves (P := fun s' : Store => s'.isDatabase = s.isDatabase) handle
    (fun op _ now s' h => (isDatabase_handle now op s').trans h) clock rfl

theorem IsNew.eq_fresh {start : Store} (h : start.IsNew) (hdatabase : start.isDatabase = true) :
    start = .database .fresh := by
  rcases h with rfl | rfl
  · cases hdatabase
  · rfl

def view : Store → MemoryStore
  | .memory m => m
  | .database db => db.view

theorem stations_eq_view (s : Store) : s.stations = s.view.stations := by
  cases s <;> rfl

/-- What is read under a number is a record that the store shows, and has that number. -/
theorem mem_of_findById {now : Instant} {id : Int} {s : Store} {r : Station}
    (h : (handle now (.findById id) s).1 = .ok (some r)) : r ∈ s.view.stations ∧ r.id = id := by
  cases s with
  | memory m =>
    have hfound : m.stations.find? (·.id == id) = some r := Except.ok.inj h
    exact ⟨List.mem_of_find?_eq_some hfound, by simpa using List.find?_some hfound⟩
  | database db =>
    obtain ⟨t, u⟩ := db
    cases t with
    | none => cases h
    | some t =>
      have hreply : (t.rows.find? (·.id == id)).mapM (Database.readRow (.findById id)) =
          .ok (some r) := h
      cases hfound : t.rows.find? (·.id == id) with
      | none =>
        rw [hfound] at hreply
        cases hreply
      | some row =>
        cases hread : row.read with
        | error text => simp [hfound, Database.readRow, hread, Except.mapError] at hreply
        | ok r' =>
          have hrow := StationRow.eq_station_of_read hread
          obtain rfl : r' = r := by
            simpa [hfound, Database.readRow, hread, Except.mapError] using hreply
          rw [hrow]
          refine ⟨List.mem_map_of_mem (List.mem_of_find?_eq_some hfound), ?_⟩
          show row.id = id
          simpa using List.find?_some hfound

theorem Rows.mono {P Q : StationRow → Prop} {s : Store} (h : s.Rows P) (hpq : ∀ r, P r → Q r) :
    s.Rows Q := by
  cases s with
  | memory m => trivial
  | database db =>
    obtain ⟨t, u, hdb, hrows⟩ := h
    exact ⟨t, u, hdb, fun r hr => hpq r (hrows r hr)⟩

theorem Healthy.legible {s : Store} (h : s.Healthy) : s.Rows StationRow.Legible := by
  cases s with
  | memory m => trivial
  | database db => exact h.1

/-- A database has all its tables. -/
def Migrated (s : Store) : Prop :=
  s.Rows fun _ => True

/-- What every row that a write makes has, the rows of a store keep. -/
theorem rows_handle {P : StationRow → Prop} {now : Instant}
    (hP : ∀ s id, P (.ofStation id now s)) {s : Store} (h : s.Rows P) (op : StoreOp) :
    (handle now op s).2.Rows P := by
  cases s with
  | memory m => trivial
  | database db => exact Database.holds_handle (fun s _ id => hP s id) h

theorem migrated_handle {s : Store} (h : s.Migrated) (op : StoreOp) (now : Instant) :
    (handle now op s).2.Migrated :=
  rows_handle (fun _ _ => trivial) h op

def Ready (op : StoreOp) : Store → Prop
  | .memory _ => True
  | .database db => db.Ready op

theorem handle_view {s : Store} (h : s.Rows StationRow.Kept) {op : StoreOp} (hop : s.Ready op)
    (now : Instant) :
    (handle now op s).1 = (MemoryStore.handle now op s.view).1 ∧
      (handle now op s).2.view = (MemoryStore.handle now op s.view).2 := by
  cases s with
  | memory m => exact ⟨rfl, rfl⟩
  | database db => exact Database.handle_view h hop now

/-- To replace, remove or read a record a store only has to read the times in its rows. -/
theorem handle_view_of_legible {s : Store} (h : s.Rows StationRow.Legible) {op : StoreOp}
    (hop : op.kind ∈ [.update, .delete, .findById]) (now : Instant) :
    (handle now op s).1 = (MemoryStore.handle now op s.view).1 ∧
      (handle now op s).2.view = (MemoryStore.handle now op s.view).2 := by
  cases s with
  | memory m => exact ⟨rfl, rfl⟩
  | database db => exact Database.handle_view_of_legible h hop now

/-- A whole run of a program that reads and rewrites records. -/
theorem run_view {α : Type} {p : Program α} (hp : p.CallsOnly [.update, .delete, .findById])
    {s : Store} (h : s.Rows StationRow.Legible) (now : Instant) :
    (p.run (handle now) s).1 = (p.run (MemoryStore.handle now) s.view).1 ∧
      (p.run (handle now) s).2.view = (p.run (MemoryStore.handle now) s.view).2 := by
  induction hp generalizing s with
  | done a => exact ⟨rfl, rfl⟩
  | call hop _ ih =>
    obtain ⟨hreply, hview⟩ := handle_view_of_legible h hop now
    rw [Program.run_call, Program.run_call, ← hreply, ← hview]
    exact ih _ (rows_handle (fun s id => StationRow.legible_ofStation id now s) h _)

end Store

end ChargingRegister
