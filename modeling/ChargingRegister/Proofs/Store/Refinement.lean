import ChargingRegister.Proofs.Store.Rows
import ChargingRegister.Proofs.Store.Timeless

/-!
# The database is the store in memory

A database with all its tables shows the store in memory that would hold the same records and
give out the same numbers next. While there is a number left and a search can compare its texts
as they are, the reply of the database to an operation is that of the store it shows, which it
goes on to show. So both kinds of store answer the same operations alike, from the start on.
-/
namespace ChargingRegister

namespace Database

/-- The store in memory that holds the same; a table that is not there counts as empty. -/
def view (db : Database) : MemoryStore :=
  let t := db.stations.getD .empty
  let u := db.accounts.getD .empty
  ⟨t.rows.map StationRow.station, t.highest + 1, u.rows, u.highest + 1⟩

@[simp] theorem view_fresh : fresh.view = .empty := rfl

theorem insertStation_of_lt {t : Table StationRow} (h : t.highest < Table.maxNumber)
    (now : Instant) (s : Station) :
    insertStation now s t =
      (.ok { s with id := t.highest + 1, lastUpdated := some now },
        ⟨t.rows ++ [.ofStation (t.highest + 1) now s], t.highest + 1⟩) := by
  have hmax : max t.highest (t.highest + 1) = t.highest + 1 := by omega
  rw [insertStation, Table.nextNumber?, if_pos h]
  simp only [StationRow.stationAt_ofStation, Table.add, hmax]

theorem handle_insert_fresh (now : Instant) (s : Station) :
    handle now (.insert s) fresh =
      (.ok { s with id := 1, lastUpdated := some now },
        ⟨some ⟨[.ofStation 1 now s], 1⟩, some .empty⟩) := by
  have hroom : (Table.empty : Table StationRow).highest < Table.maxNumber := by decide
  simp only [handle, fresh, onStations, insertStation_of_lt hroom]
  rfl

theorem insertAccount_of_lt {t : Table Account} (h : t.highest < Table.maxNumber)
    (username passwordHash : String) :
    insertAccount username passwordHash t =
      if t.rows.any (·.username == username) then (.error usernameTaken, t)
      else (.ok ⟨t.highest + 1, username, passwordHash⟩,
        ⟨t.rows ++ [⟨t.highest + 1, username, passwordHash⟩], t.highest + 1⟩) := by
  have hmax : max t.highest (t.highest + 1) = t.highest + 1 := by omega
  simp only [insertAccount, Table.nextNumber?, if_pos h, Table.add, hmax]

theorem map_station_updateRows (now : Instant) (s : Station) (rows : List StationRow) :
    (updateRows now s rows).map StationRow.station =
      MemoryStore.replace { s with lastUpdated := some now } (rows.map StationRow.station) := by
  rw [updateRows, MemoryStore.replace, List.map_map, List.map_map]
  apply List.map_congr_left
  intro r _
  show StationRow.station (if r.id = s.id then _ else r) = if r.id = s.id then _ else r.station
  split
  case isTrue hid => rw [StationRow.station_ofStation, hid]
  case isFalse => rfl

/-- What an operation needs in order to be answered as in memory: a number for what it adds, and
texts that a search can compare. -/
structure Ready (db : Database) (op : StoreOp) : Prop where
  station : op.kind = .insert → db.view.nextStation ≤ Table.maxNumber
  account : op.kind = .createAccount → db.view.nextAccount ≤ Table.maxNumber
  search : ∀ text ∈ op.searched?, Searchable text ∧ db.Holds fun r => r.station.Plain

/-- To replace, remove or read a record a database only has to read the time in its row. -/
theorem handle_view_of_legible {db : Database} (h : db.Holds StationRow.Legible) {op : StoreOp}
    (hop : op.kind ∈ [.update, .delete, .findById]) (now : Instant) :
    (handle now op db).1 = (MemoryStore.handle now op db.view).1 ∧
      (handle now op db).2.view = (MemoryStore.handle now op db.view).2 := by
  obtain ⟨t, u, rfl, hlegible⟩ := h
  cases op with
  | insert | findAll | search | findAccount | createAccount | countAccounts =>
    simp [StoreOp.kind] at hop
  | update s =>
    have hmet : (t.rows.map StationRow.station).any (·.id == s.id) =
        t.rows.any (·.id == s.id) := List.any_map
    simp [handle, onStations, MemoryStore.handle, view, map_station_updateRows, hmet]
  | delete id =>
    have hmet : (t.rows.map StationRow.station).any (·.id == id) =
        t.rows.any (·.id == id) := List.any_map
    have hleft : (t.rows.map StationRow.station).filter (·.id != id) =
        (t.rows.filter (·.id != id)).map StationRow.station := List.filter_map
    simp [handle, onStations, MemoryStore.handle, view, hmet, hleft]
  | findById id =>
    have hfound : (t.rows.map StationRow.station).find? (·.id == id) =
        (t.rows.find? (·.id == id)).map StationRow.station := List.find?_map
    refine ⟨?_, rfl⟩
    show (t.rows.find? (·.id == id)).mapM (readRow (.findById id)) =
      .ok ((t.rows.map StationRow.station).find? (·.id == id))
    rw [hfound]
    cases hr : t.rows.find? (·.id == id) with
    | none => rfl
    | some r =>
      have hread := (hlegible r (List.mem_of_find?_eq_some hr)).read_eq
      simp [readRow, hread]
      rfl

/-- One operation: the same reply, and again the database that shows the same. -/
theorem handle_view {db : Database} (h : db.Holds StationRow.Kept) {op : StoreOp}
    (hop : db.Ready op) (now : Instant) :
    (handle now op db).1 = (MemoryStore.handle now op db.view).1 ∧
      (handle now op db).2.view = (MemoryStore.handle now op db.view).2 := by
  obtain ⟨t, u, rfl, hkept⟩ := h
  cases op with
  | insert s =>
    have hroom : t.highest < Table.maxNumber := hop.station rfl
    simp [handle, onStations, insertStation_of_lt hroom, MemoryStore.handle, view]
  | update | delete | findById =>
    exact handle_view_of_legible ⟨t, u, rfl, fun r hr => (hkept r hr).legible⟩
      (by simp [StoreOp.kind]) now
  | findAll => exact ⟨listedRows_of_kept _ hkept, rfl⟩
  | search text =>
    obtain ⟨hsearchable, t', u', heq, hplain⟩ := hop.search text rfl
    cases heq
    exact ⟨searchRows_of_kept hkept hplain hsearchable, rfl⟩
  | findAccount username => exact ⟨rfl, rfl⟩
  | createAccount username passwordHash =>
    have hroom : u.highest < Table.maxNumber := hop.account rfl
    by_cases htaken : u.rows.any (·.username == username) <;>
      simp [handle, onAccounts, insertAccount_of_lt hroom, MemoryStore.handle, view, htaken]
  | countAccounts => exact ⟨rfl, rfl⟩

end Database

theorem MemoryStore.nextStation_handle (now : Instant) (op : StoreOp) (m : MemoryStore) :
    (handle now op m).2.nextStation =
      m.nextStation + if op.kind = .insert then 1 else 0 := by
  cases op with
  | createAccount username passwordHash =>
    by_cases h : m.accounts.any (·.username == username) <;> simp [handle, StoreOp.kind, h]
  | _ => simp [handle, StoreOp.kind]

theorem MemoryStore.nextAccount_handle_le (now : Instant) (op : StoreOp) (m : MemoryStore) :
    (handle now op m).2.nextAccount ≤
      m.nextAccount + if op.kind = .createAccount then 1 else 0 := by
  cases op with
  | createAccount username passwordHash =>
    by_cases h : m.accounts.any (·.username == username)
    · simp only [handle, h, StoreOp.kind, if_true]
      omega
    · simp [handle, h, StoreOp.kind]
  | _ => simp [handle, StoreOp.kind]

namespace StoreOp

def count (kind : Kind) (ops : List StoreOp) : Int :=
  (ops.countP (·.kind == kind) : Nat)

theorem count_cons (kind : Kind) (op : StoreOp) (ops : List StoreOp) :
    count kind (op :: ops) = count kind ops + if op.kind = kind then 1 else 0 := by
  by_cases h : op.kind = kind <;> simp [count, h]

theorem count_nonneg (kind : Kind) (ops : List StoreOp) : 0 ≤ count kind ops :=
  Int.natCast_nonneg _

end StoreOp

namespace StoreOp

/-- Every text searched for can be compared as it is, and so can all that was written before. -/
structure Comparable (ops : List StoreOp) : Prop where
  searched : ∀ op ∈ ops, ∀ text ∈ op.searched?, Database.Searchable text
  written : ops.Pairwise fun before op => op.searched?.isSome → ∀ s ∈ before.written?, s.Plain

instance (ops : List StoreOp) : Decidable (Comparable ops) :=
  decidable_of_iff (_ ∧ _) ⟨fun h => ⟨h.1, h.2⟩, fun h => ⟨h.searched, h.written⟩⟩

end StoreOp

namespace Database

structure ReadyFor (db : Database) (ops : List StoreOp) : Prop where
  kept : db.Holds StationRow.Kept
  plain : (∃ op ∈ ops, op.searched?.isSome) → db.Holds fun r => r.station.Plain
  comparable : StoreOp.Comparable ops
  stations : db.view.nextStation + StoreOp.count .insert ops ≤ Table.maxNumber + 1
  accounts : db.view.nextAccount + StoreOp.count .createAccount ops ≤ Table.maxNumber + 1

theorem ReadyFor.head {db : Database} {op : StoreOp} {ops : List StoreOp}
    (h : db.ReadyFor (op :: ops)) : db.Ready op where
  station := fun hop => by
    have hroom := h.stations
    have hrest := StoreOp.count_nonneg .insert ops
    rw [StoreOp.count_cons, if_pos hop] at hroom
    omega
  account := fun hop => by
    have hroom := h.accounts
    have hrest := StoreOp.count_nonneg .createAccount ops
    rw [StoreOp.count_cons, if_pos hop] at hroom
    omega
  search := fun text htext =>
    ⟨h.comparable.searched op List.mem_cons_self text htext,
      h.plain ⟨op, List.mem_cons_self, Option.isSome_of_mem htext⟩⟩

theorem ReadyFor.tail {db : Database} {op : StoreOp} {ops : List StoreOp}
    (h : db.ReadyFor (op :: ops)) (now : Instant) : (handle now op db).2.ReadyFor ops where
  kept := holds_handle (fun s _ id => StationRow.kept_ofStation id now s) h.kept
  plain := by
    rintro ⟨later, hlater, hsearch⟩
    have hplain := h.plain ⟨later, List.mem_cons_of_mem _ hlater, hsearch⟩
    have hwritten := (List.pairwise_cons.mp h.comparable.written).1 later hlater hsearch
    -- what is written before a search can be compared by it
    refine holds_handle (fun s hs id => ?_) hplain
    rw [StationRow.station_ofStation]
    exact hwritten s hs
  comparable :=
    ⟨fun op' hop' => h.comparable.searched op' (List.mem_cons_of_mem _ hop'),
      (List.pairwise_cons.mp h.comparable.written).2⟩
  stations := by
    have hroom := h.stations
    rw [StoreOp.count_cons] at hroom
    rw [(handle_view h.kept h.head now).2, MemoryStore.nextStation_handle]
    omega
  accounts := by
    have hroom := h.accounts
    have hnext := MemoryStore.nextAccount_handle_le now op db.view
    rw [StoreOp.count_cons] at hroom
    rw [(handle_view h.kept h.head now).2]
    omega

/-- A whole run: the replies of the store in memory, and what it holds in the end. -/
theorem runCalls_view {db : Database} {ops : List StoreOp} (h : db.ReadyFor ops) (clock : Clock) :
    (runCalls handle clock ops db).1 = (runCalls MemoryStore.handle clock ops db.view).1 ∧
      (runCalls handle clock ops db).2.view =
        (runCalls MemoryStore.handle clock ops db.view).2 := by
  induction ops generalizing db clock with
  | nil => exact ⟨rfl, rfl⟩
  | cons op ops ih =>
    obtain ⟨hreply, hview⟩ := handle_view h.kept h.head (clock 0)
    obtain ⟨hreplies, hend⟩ := ih (h.tail (clock 0)) clock.tail
    rw [hview] at hreplies hend
    rw [runCalls_cons, runCalls_cons, hreply, hreplies]
    exact ⟨rfl, hend⟩

end Database

end ChargingRegister
