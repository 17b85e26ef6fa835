import ChargingRegister.Proofs.Store.Numbers

/-!
# Sound records

The numbers of the records in a store are positive and pairwise distinct, all of them were given
out before, and no name is blank. Each operation keeps it so, as long as what it writes has a name,
in a store in memory and in one that a database shows.
-/
namespace ChargingRegister

theorem StoreOp.written?_of_reads {op : StoreOp} (h : op.kind.writes = false) :
    op.written? = none := by
  cases op with
  | insert | update => cases h
  | _ => rfl

namespace MemoryStore

structure Sound (m : MemoryStore) : Prop where
  counted : 0 < m.nextStation
  numbered : ∀ s ∈ m.stations, 0 < s.id ∧ s.id < m.nextStation
  distinct : m.stations.Pairwise fun a b => a.id ≠ b.id
  named : ∀ s ∈ m.stations, Text.blank s.name = false

theorem sound_empty : empty.Sound where
  counted := Int.zero_lt_one
  numbered := fun _ h => absurd h List.not_mem_nil
  distinct := List.Pairwise.nil
  named := fun _ h => absurd h List.not_mem_nil

variable {m : MemoryStore}

theorem Sound.toNumbered (h : m.Sound) : m.Numbered where
  distinct := List.pairwise_map.mpr h.distinct
  spent := by
    intro id hid
    obtain ⟨r, hr, rfl⟩ := List.mem_map.mp hid
    exact (h.numbered r hr).2

theorem Sound.insert (h : m.Sound) {s : Station} (hs : Text.blank s.name = false) (now : Instant) :
    (handle now (.insert s) m).2.Sound where
  counted := Int.add_pos h.counted Int.zero_lt_one
  numbered := by
    intro r hr
    show 0 < r.id ∧ r.id < m.nextStation + 1
    rcases List.mem_append.mp hr with hr | hr
    · have hnumber := h.numbered r hr
      omega
    · have hcounted := h.counted
      rw [List.mem_singleton.mp hr]
      show 0 < m.nextStation ∧ m.nextStation < m.nextStation + 1
      omega
  distinct := List.pairwise_map.mp (h.toNumbered.insert now s).distinct
  named := by
    intro r hr
    rcases List.mem_append.mp hr with hr | hr
    · exact h.named r hr
    · exact List.mem_singleton.mp hr ▸ hs

theorem Sound.update (h : m.Sound) {s : Station} (hs : Text.blank s.name = false) (now : Instant) :
    (handle now (.update s) m).2.Sound where
  counted := h.counted
  numbered := by
    intro r hr
    have hid : r.id ∈ m.numbers := m.numbers_update now s ▸ List.mem_map_of_mem hr
    obtain ⟨r', hr', heq⟩ := List.mem_map.mp hid
    exact heq ▸ h.numbered r' hr'
  distinct := List.pairwise_map.mp (h.toNumbered.update now s).distinct
  named := by
    intro r hr
    obtain ⟨r', hr', rfl⟩ := List.mem_map.mp hr
    split
    case isTrue => exact hs
    case isFalse => exact h.named r' hr'

theorem Sound.delete (h : m.Sound) (id : Int) (now : Instant) :
    (handle now (.delete id) m).2.Sound where
  counted := h.counted
  numbered := fun r hr => h.numbered r (List.mem_filter.mp hr).1
  distinct := h.distinct.filter _
  named := fun r hr => h.named r (List.mem_filter.mp hr).1

/-- An operation on accounts or one that reads leaves the records alone. -/
theorem Sound.handle (h : m.Sound) {op : StoreOp}
    (hop : ∀ s ∈ op.written?, Text.blank s.name = false) (now : Instant) :
    (handle now op m).2.Sound := by
  cases op with
  | insert s => exact h.insert (hop s rfl) now
  | update s => exact h.update (hop s rfl) now
  | delete id => exact h.delete id now
  | createAccount username passwordHash =>
    simp only [MemoryStore.handle]
    split
    · exact h
    · exact ⟨h.counted, h.numbered, h.distinct, h.named⟩
  | _ => exact h

end MemoryStore

namespace Store

theorem sound_view_of_isNew {s : Store} (h : s.IsNew) : s.view.Sound := by
  rcases h with rfl | rfl <;> exact MemoryStore.sound_empty

theorem sound_view_handle {s : Store} (h : s.view.Sound) {op : StoreOp}
    (hop : ∀ s ∈ op.written?, Text.blank s.name = false) (now : Instant) :
    (handle now op s).2.view.Sound := by
  cases s with
  | memory m => exact h.handle hop now
  | database db =>
    rcases Database.view_handle now op db with heq | heq
    · exact (congrArg MemoryStore.Sound heq).mpr h
    · exact (congrArg MemoryStore.Sound heq).mpr (h.handle hop now)

end Store

end ChargingRegister
