import ChargingRegister.Proofs.Store.Calls
import ChargingRegister.Proofs.Store.Refinement
import ChargingRegister.Proofs.Store.Trace

/-!
# Calls that a store refuses

A refused call changes nothing, and a call for a record is refused in the name of its operation. A
store is healthy when it refuses no call for a record by itself; behind a probe such a call then
fails just when its kind is on the list of the probe.
-/
namespace ChargingRegister

namespace StoreOp.Kind

def ofRecord : Kind → Bool
  | .insert | .update | .delete | .findById => true
  | _ => false

end StoreOp.Kind

namespace Database

theorem handle_of_reads {op : StoreOp} (h : op.kind.writes = false) (now : Instant)
    (db : Database) : (handle now op db).2 = db := by
  obtain ⟨t, u⟩ := db
  cases op with
  | insert | update | delete | createAccount => cases h
  | findById | findAll | search => cases t <;> rfl
  | findAccount | countAccounts => cases u <;> rfl

theorem handle_of_error {now : Instant} {op : StoreOp} {db : Database} {e : RegistryError}
    (h : (handle now op db).1 = .error e) : (handle now op db).2 = db := by
  obtain ⟨t, u⟩ := db
  -- refused are calls for a missing table, and additions without a number or with a name in use
  cases op with
  | insert s =>
    cases t with
    | none => rfl
    | some t =>
      have hspent : t.nextNumber? = none := by
        cases hnext : t.nextNumber? with
        | none => rfl
        | some id => simp [handle, onStations, insertStation, hnext] at h
      simp [handle, onStations, insertStation, hspent]
  | update | delete =>
    cases t with
    | none => rfl
    | some t => cases h
  | createAccount username passwordHash =>
    cases u with
    | none => rfl
    | some u =>
      by_cases htaken : u.rows.any (·.username == username)
      · simp [handle, onAccounts, insertAccount, htaken]
      · have hspent : u.nextNumber? = none := by
          cases hnext : u.nextNumber? with
          | none => rfl
          | some id => simp [handle, onAccounts, insertAccount, htaken, hnext] at h
        simp [handle, onAccounts, insertAccount, htaken, hspent]
  | findById | findAll | search | findAccount | countAccounts => exact handle_of_reads rfl now _

theorem error_of_readRow {op : StoreOp} {r : StationRow} {e : RegistryError}
    (h : readRow op r = .error e) : ∃ text, e = illegibleTime op text := by
  cases hread : r.read with
  | error text =>
    rw [readRow, hread] at h
    exact ⟨text, (Except.error.inj h).symm⟩
  | ok s =>
    rw [readRow, hread] at h
    cases h

theorem error_of_handle {now : Instant} {op : StoreOp} (hop : op.kind.ofRecord = true)
    {db : Database} {e : RegistryError} (h : (handle now op db).1 = .error e) :
    ∃ cause, e = .storageFailure op.kind.name cause := by
  obtain ⟨t, u⟩ := db
  cases op with
  | findAll | search | findAccount | createAccount | countAccounts => cases hop
  | insert s =>
    cases t with
    | none => exact ⟨_, (Except.error.inj h).symm⟩
    | some t =>
      cases hnext : t.nextNumber? with
      | none =>
        simp only [handle, onStations, insertStation, hnext] at h
        exact ⟨_, (Except.error.inj h).symm⟩
      | some id => simp [handle, onStations, insertStation, hnext] at h
  | update | delete =>
    cases t with
    | none => exact ⟨_, (Except.error.inj h).symm⟩
    | some t => cases h
  | findById id =>
    cases t with
    | none => exact ⟨_, (Except.error.inj h).symm⟩
    | some t =>
      simp only [handle, onStations] at h
      cases hfound : t.rows.find? (·.id == id) with
      | none =>
        rw [hfound] at h
        cases h
      | some r =>
        cases hrow : readRow (.findById id) r with
        | ok s => simp [hfound, hrow] at h
        | error e' =>
          obtain ⟨text, htext⟩ := error_of_readRow hrow
          simp [hfound, hrow] at h
          exact ⟨_, h.symm.trans htext⟩

end Database

namespace Store

theorem handle_of_reads {op : StoreOp} (h : op.kind.writes = false) (now : Instant) (s : Store) :
    (handle now op s).2 = s := by
  cases s with
  | memory m =>
    cases op with
    | insert | update | delete | createAccount => cases h
    | findById | findAll | search | findAccount | countAccounts => rfl
  | database db => exact congrArg Store.database (Database.handle_of_reads h now db)

theorem handle_of_error {now : Instant} {op : StoreOp} {s : Store} {e : RegistryError}
    (h : (handle now op s).1 = .error e) : (handle now op s).2 = s := by
  cases s with
  | memory m =>
    cases op with
    | createAccount username passwordHash =>
      by_cases htaken : m.accounts.any (·.username == username)
      · simp [handle, MemoryStore.handle, htaken]
      · simp [handle, MemoryStore.handle, htaken] at h
    | _ => cases h
  | database db => exact congrArg Store.database (Database.handle_of_error h)

theorem reply_of_memory {op : StoreOp} (hop : op.kind.ofRecord = true) (now : Instant)
    (m : MemoryStore) : ∃ a, (handle now op (.memory m)).1 = .ok a := by
  cases op with
  | findAll | search | findAccount | createAccount | countAccounts => cases hop
  | insert | update | delete | findById => exact ⟨_, rfl⟩

theorem error_of_handle {now : Instant} {op : StoreOp} (hop : op.kind.ofRecord = true)
    {s : Store} {e : RegistryError} (h : (handle now op s).1 = .error e) :
    ∃ cause, e = .storageFailure op.kind.name cause := by
  cases s with
  | memory m =>
    obtain ⟨a, ha⟩ := reply_of_memory hop now m
    rw [ha] at h
    cases h
  | database db => exact Database.error_of_handle hop h

/-- Every store in memory is healthy, and so is a database with all its tables, times that can be
read and a number left. -/
def Healthy : Store → Prop
  | .memory _ => True
  | .database db =>
    db.Holds (fun r => ∃ i, r.lastUpdated = .instant i) ∧ db.view.nextStation ≤ Table.maxNumber

example : (Store.database .fresh).Healthy := ⟨Database.holds_fresh _, by decide⟩

/-- A healthy store refuses no call for a record. -/
theorem Healthy.reply_ok {s : Store} (h : s.Healthy) {op : StoreOp}
    (hop : op.kind.ofRecord = true) (now : Instant) :
    ∃ a, (handle now op s).1 = .ok a := by
  cases s with
  | memory m => exact reply_of_memory hop now m
  | database db =>
    obtain ⟨⟨t, u, rfl, hlegible⟩, hroom⟩ := h
    cases op with
    | findAll | search | findAccount | createAccount | countAccounts => cases hop
    | insert s =>
      have hlt : t.highest < Table.maxNumber := hroom
      show ∃ a, (Database.insertStation now s t).1 = .ok a
      rw [Database.insertStation_of_lt hlt]
      exact ⟨_, rfl⟩
    | update | delete => exact ⟨_, rfl⟩
    | findById id =>
      show ∃ a, (t.rows.find? (·.id == id)).mapM (Database.readRow (.findById id)) = .ok a
      cases hfound : t.rows.find? (·.id == id) with
      | none => exact ⟨none, rfl⟩
      | some r =>
        obtain ⟨i, hi⟩ := hlegible r (List.mem_of_find?_eq_some hfound)
        refine ⟨some (r.stationAt i), ?_⟩
        simp [Database.readRow, StationRow.read, hi, Except.mapError]

end Store

namespace Probe

variable {σ : Type} {inner : Handler σ} {op : StoreOp} {w : Probe σ}

theorem handle_of_mem (h : op.kind ∈ w.failing) :
    handle inner op w = (.error (w.refusal op), { w with calls := w.calls ++ [op.kind] }) :=
  if_pos (List.contains_iff_mem.mpr h)

theorem handle_of_notMem (h : op.kind ∉ w.failing) :
    handle inner op w = ((inner op w.store).1,
      { w with store := (inner op w.store).2, calls := w.calls ++ [op.kind] }) :=
  if_neg (mt List.contains_iff_mem.mp h)

/-- What holds of a refusal and of the store's own reply holds of the reply behind the probe. -/
theorem handle_cases (op : StoreOp) {P : StoreReply op → σ → Prop}
    (hrefused : ∀ e, P (.error e) w.store)
    (hserved : P (inner op w.store).1 (inner op w.store).2) :
    P (handle inner op w).1 (handle inner op w).2.store := by
  by_cases hop : op.kind ∈ w.failing
  · rw [handle_of_mem hop]
    exact hrefused _
  · rw [handle_of_notMem hop]
    exact hserved

theorem error_of_handle {now : Instant} {w : Probe Store}
    (hop : op.kind.ofRecord = true) {e : RegistryError}
    (h : (handle (Store.handle now) op w).1 = .error e) :
    ∃ cause, e = .storageFailure op.kind.name cause := by
  by_cases hrefused : op.kind ∈ w.failing
  · rw [handle_of_mem hrefused] at h
    exact ⟨w.cause, (Except.error.inj h).symm⟩
  · rw [handle_of_notMem hrefused] at h
    exact Store.error_of_handle hop h

theorem calls_run_eq_trace {α : Type} (inner : Handler σ) (p : Program α) (w : Probe σ) :
    (p.run (handle inner) w).2.calls =
      w.calls ++ (p.trace (handle inner) w).map fun a => a.1.kind := by
  induction p generalizing w with
  | done a => exact (List.append_nil _).symm
  | call op next ih =>
    rw [Program.run_call, Program.trace_call, ih, calls_handle, List.map_cons, List.append_assoc,
      List.singleton_append]

end Probe

end ChargingRegister
