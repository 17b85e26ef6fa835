import ChargingRegister.Proofs.Store.Lookup
import ChargingRegister.Proofs.Store.View
import Mathlib.Data.List.Nodup

/-!
# The numbers in a store

A new record gets the next number, which goes up by one, and a removal takes its number out of use;
no other operation changes which numbers are in use. So no two records ever share a number, and no
number is given out twice, in a store in memory and in one that a database shows.
-/
namespace ChargingRegister

namespace MemoryStore

def numbers (m : MemoryStore) : List Int :=
  m.stations.map Station.id

/-- No two records share a number, and the next number is above all that are in use. -/
structure Numbered (m : MemoryStore) : Prop where
  distinct : m.numbers.Nodup
  spent : ∀ id ∈ m.numbers, id < m.nextStation

theorem numbered_empty : empty.Numbered where
  distinct := List.nodup_nil
  spent := fun _ h => absurd h List.not_mem_nil

theorem map_id_replace (s : Station) (stations : List Station) :
    (replace s stations).map Station.id = stations.map Station.id := by
  rw [replace, List.map_map]
  apply List.map_congr_left
  intro r _
  show (if r.id = s.id then s else r).id = r.id
  split
  case isTrue hid => exact hid.symm
  case isFalse => rfl

section

variable (m : MemoryStore) (now : Instant) (s : Station) (id : Int)

theorem numbers_insert :
    (handle now (.insert s) m).2.numbers = m.numbers ++ [m.nextStation] :=
  List.map_append

theorem numbers_update : (handle now (.update s) m).2.numbers = m.numbers :=
  map_id_replace _ m.stations

theorem numbers_delete :
    (handle now (.delete id) m).2.numbers = m.numbers.filter (· != id) := by
  rw [numbers, numbers, List.filter_map]
  rfl

theorem lookup_isSome_iff : (m.lookup id).isSome = true ↔ id ∈ m.numbers := by
  rw [← any_id, List.any_eq_true, numbers, List.mem_map]
  simp

end

variable {m : MemoryStore} (h : m.Numbered)
include h

theorem Numbered.lookup_eq {r : Station} (hr : r ∈ m.stations) : m.lookup r.id = some r := by
  have hlive : (m.lookup r.id).isSome = true :=
    (m.lookup_isSome_iff r.id).mpr (List.mem_map_of_mem hr)
  obtain ⟨r', hr'⟩ := Option.isSome_iff_exists.mp hlive
  have hmem : r' ∈ m.stations := List.mem_of_find?_eq_some hr'
  rw [hr', List.inj_on_of_nodup_map h.distinct hmem hr (id_of_lookup hr')]

theorem Numbered.next_not_mem : m.nextStation ∉ m.numbers :=
  fun hmem => (h.spent _ hmem).ne rfl

theorem Numbered.insert (now : Instant) (s : Station) :
    (handle now (.insert s) m).2.Numbered where
  distinct := by
    rw [numbers_insert, ← List.concat_eq_append]
    exact h.distinct.concat h.next_not_mem
  spent := by
    intro id hid
    show id < m.nextStation + 1
    rw [numbers_insert, List.mem_append, List.mem_singleton] at hid
    rcases hid with hid | rfl
    · have hspent := h.spent id hid
      omega
    · omega

theorem Numbered.update (now : Instant) (s : Station) :
    (handle now (.update s) m).2.Numbered where
  distinct := (m.numbers_update now s).symm ▸ h.distinct
  spent := fun id hid => h.spent id (m.numbers_update now s ▸ hid)

theorem Numbered.delete (now : Instant) (id : Int) :
    (handle now (.delete id) m).2.Numbered where
  distinct := (m.numbers_delete now id).symm ▸ h.distinct.filter _
  spent := fun id' hid => h.spent id' (List.mem_filter.mp (m.numbers_delete now id ▸ hid)).1

theorem Numbered.handle (now : Instant) (op : StoreOp) : (handle now op m).2.Numbered := by
  cases op with
  | insert s => exact h.insert now s
  | update s => exact h.update now s
  | delete id => exact h.delete now id
  | createAccount username passwordHash =>
    simp only [MemoryStore.handle]
    split
    · exact h
    · exact ⟨h.distinct, h.spent⟩
  | _ => exact h

end MemoryStore

namespace Store

theorem numbered_view_handle {s : Store} (h : s.view.Numbered) (now : Instant) (op : StoreOp) :
    (handle now op s).2.view.Numbered := by
  cases s with
  | memory m => exact h.handle now op
  | database db =>
    rcases Database.view_handle now op db with heq | heq
    · exact (congrArg MemoryStore.Numbered heq).mpr h
    · exact (congrArg MemoryStore.Numbered heq).mpr (h.handle now op)

/-- Every store that operations can produce has its records numbered. -/
theorem numbered_runCalls {start : Store} (hstart : start.IsNew) (clock : Clock)
    (ops : List StoreOp) : (runCalls handle clock ops start).2.view.Numbered := by
  refine runCalls_preserves (P := fun s : Store => s.view.Numbered) handle
    (fun op _ now s h => numbered_view_handle h now op) clock ?_
  rcases hstart with rfl | rfl <;> exact MemoryStore.numbered_empty

/-- The next number goes up by one at most, and only when a record is added. -/
theorem nextStation_view_handle_le (now : Instant) (op : StoreOp) (s : Store) :
    (handle now op s).2.view.nextStation ≤
      s.view.nextStation + if op.kind = .insert then 1 else 0 := by
  cases s with
  | memory m => exact (m.nextStation_handle now op).le
  | database db =>
    rcases Database.view_handle now op db with heq | heq
    · show (Database.handle now op db).2.view.nextStation ≤ db.view.nextStation + _
      rw [heq]
      split <;> omega
    · exact (congrArg MemoryStore.nextStation heq).trans (db.view.nextStation_handle now op) |>.le

theorem handle_insert_cases (now : Instant) (station : Station) (s : Store) :
    (∃ e, handle now (.insert station) s = (.error e, s)) ∨
      ∃ r, (handle now (.insert station) s).1 = .ok r ∧ r.id = s.view.nextStation ∧
        (handle now (.insert station) s).2.view =
          (MemoryStore.handle now (.insert station) s.view).2 := by
  cases s with
  | memory m => exact .inr ⟨_, rfl, rfl, rfl⟩
  | database db =>
    obtain ⟨t, u⟩ := db
    cases t with
    | none => exact .inl ⟨_, rfl⟩
    | some t =>
      by_cases hroom : t.highest < Table.maxNumber
      · refine .inr ⟨{ station with id := t.highest + 1, lastUpdated := some now }, ?_, rfl, ?_⟩
        · simp [handle, Database.handle, Database.onStations, Database.insertStation_of_lt hroom]
        · simp [handle, Database.handle, Database.onStations, Database.insertStation_of_lt hroom,
            view, Database.view, MemoryStore.handle]
      · refine .inl ⟨Database.failure (.insert station) .full, ?_⟩
        simp [handle, Database.handle, Database.onStations, Database.insertStation,
          Table.nextNumber?, hroom]

end Store

end ChargingRegister
