import ChargingRegister.Proofs.Registry.Request
import ChargingRegister.Proofs.Store.Numbers
import Mathlib.Data.List.Induction

/-!
# Removing several stations accounts for every number

What becomes of a list of numbers follows from the numbers in use when the removal began. After any
part of the list the store is the one before without the positive numbers of that part, so a number
is met at its first place only, and another order of the list changes the order within the groups
alone. While a store refuses removals every positive number fails and nothing changes.
-/
namespace ChargingRegister

namespace Store

/-- The store without the records under some numbers. -/
def without (ids : List Int) : Store → Store
  | .memory m => .memory { m with stations := m.stations.filter (·.id ∉ ids) }
  | .database db => .database { db with
      stations := db.stations.map fun t => { t with rows := t.rows.filter (·.id ∉ ids) } }

section

variable (s : Store) (ids later : List Int)

@[simp] theorem without_nil : s.without [] = s := by
  rcases s with m | ⟨t, u⟩
  · simp [without]
  · cases t <;> simp [without]

theorem without_append : s.without (ids ++ later) = (s.without ids).without later := by
  have hkept : ∀ id : Int,
      decide (id ∉ ids ++ later) = (decide (id ∉ later) && decide (id ∉ ids)) := by
    simp [Bool.and_comm]
  rcases s with m | ⟨t, u⟩
  · simp only [without, hkept, List.filter_filter]
  · cases t <;> simp only [without, hkept, List.filter_filter, Option.map]

theorem numbers_without : (s.without ids).view.numbers = s.view.numbers.filter (· ∉ ids) := by
  rcases s with m | ⟨t, u⟩
  · show (m.stations.filter _).map Station.id = (m.stations.map Station.id).filter _
    rw [List.filter_map]
    rfl
  · cases t with
    | none => rfl
    | some t =>
      show ((t.rows.filter _).map StationRow.station).map Station.id =
        ((t.rows.map StationRow.station).map Station.id).filter _
      rw [List.map_map, List.map_map, List.filter_map]
      rfl

end

theorem without_congr {ids ids' : List Int} (h : ∀ id, id ∈ ids ↔ id ∈ ids') (s : Store) :
    s.without ids = s.without ids' := by
  rcases s with m | ⟨t, u⟩ <;> simp only [without, h]

theorem migrated_without {s : Store} (h : s.Migrated) (ids : List Int) :
    (s.without ids).Migrated := by
  cases s with
  | memory m => trivial
  | database db =>
    obtain ⟨t, u, rfl, -⟩ := h
    exact ⟨_, u, rfl, fun _ _ => trivial⟩

/-- A removal tells whether it met a record, and takes just that one away. -/
theorem handle_delete {s : Store} (h : s.Migrated) (now : Instant) (id : Int) :
    handle now (.delete id) s = (.ok (decide (id ∈ s.view.numbers)), s.without [id]) := by
  have hmet : ∀ {α : Type} (rows : List α) (number : α → Int),
      rows.any (number · == id) = decide (id ∈ rows.map number) := by
    intro α rows number
    rw [Bool.eq_iff_iff, List.any_eq_true, decide_eq_true_eq, List.mem_map]
    simp
  have hleft : (fun number : Int => number != id) = fun number => decide (number ∉ [id]) := by
    funext number
    rw [Bool.eq_iff_iff]
    simp
  cases s with
  | memory m =>
    refine Prod.ext (congrArg Except.ok (hmet m.stations Station.id)) ?_
    simp only [handle, MemoryStore.handle, without, congrFun hleft]
  | database db =>
    obtain ⟨t, u, rfl, -⟩ := h
    have hnumbers : (database ⟨some t, some u⟩).view.numbers = t.rows.map StationRow.id :=
      List.map_map
    rw [hnumbers]
    refine Prod.ext (congrArg Except.ok (hmet t.rows StationRow.id)) ?_
    simp only [handle, Database.handle, Database.onStations, without, congrFun hleft, Option.map]

end Store

namespace Removal

open Registry

/-- The numbers of a list at the places that pass a test of the number and of those before it. -/
def picked (test : List Int → Int → Bool) (ids : List Int) : List Int :=
  (ids.zipIdx.filter fun place => test (ids.take place.2) place.1).map Prod.fst

theorem picked_concat (test : List Int → Int → Bool) (ids : List Int) (id : Int) :
    picked test (ids ++ [id]) = picked test ids ++ if test ids id then [id] else [] := by
  have hbefore : ids.zipIdx.filter (fun place => test ((ids ++ [id]).take place.2) place.1) =
      ids.zipIdx.filter fun place => test (ids.take place.2) place.1 := by
    apply List.filter_congr
    intro place hplace
    have hlt : place.2 < ids.length := by simpa using List.snd_lt_of_mem_zipIdx hplace
    rw [List.take_append_of_le_length hlt.le]
  rw [picked, List.zipIdx_append, List.filter_append, hbefore, List.map_append]
  refine congrArg (picked test ids ++ ·) ?_
  cases h : test ids id <;> simp [h]

/-- What becomes of the numbers of a list, in its order, when some numbers are in use. -/
def ofNumbers (inUse ids : List Int) : Removal where
  deleted := picked (fun before id => 0 < id ∧ id ∈ inUse ∧ id ∉ before) ids
  missing := picked (fun before id => 0 < id ∧ ¬ (id ∈ inUse ∧ id ∉ before)) ids
  failed := (ids.filter (· ≤ 0)).map fun id => (id, badId "delete" id)

def attempted (ids : List Int) : List Int :=
  ids.filter (0 < ·)

section

variable {inUse ids : List Int} {id : Int}

theorem mem_attempted : id ∈ attempted ids ↔ id ∈ ids ∧ 0 < id := by
  rw [attempted, List.mem_filter, decide_eq_true_eq]

theorem attempted_concat_of_pos (h : 0 < id) : attempted (ids ++ [id]) = attempted ids ++ [id] := by
  simp [attempted, List.filter_append, h]

theorem attempted_concat_of_nonpos (h : id ≤ 0) : attempted (ids ++ [id]) = attempted ids := by
  simp [attempted, List.filter_append, Int.not_lt.mpr h]

theorem ofNumbers_concat_of_pos (h : 0 < id) :
    ofNumbers inUse (ids ++ [id]) =
      (ofNumbers inUse ids).note id (.ok (decide (id ∈ inUse ∧ id ∉ ids))) := by
  have hfailed : (ids ++ [id]).filter (· ≤ 0) = ids.filter (· ≤ 0) := by
    simp [List.filter_append, h]
  by_cases hmet : id ∈ inUse ∧ id ∉ ids <;>
    simp [ofNumbers, picked_concat, hfailed, h, hmet, note]

theorem ofNumbers_concat_of_nonpos (h : id ≤ 0) :
    ofNumbers inUse (ids ++ [id]) =
      (ofNumbers inUse ids).note id (.error (badId "delete" id)) := by
  have hpos : ¬ 0 < id := Int.not_lt.mpr h
  simp [ofNumbers, picked_concat, List.filter_append, h, hpos, note]

/-- The first places of the numbers in use are those that are met. -/
theorem mem_deleted_iff : id ∈ (ofNumbers inUse ids).deleted ↔ id ∈ ids ∧ 0 < id ∧ id ∈ inUse := by
  induction ids using List.reverseRecOn with
  | nil => simp [ofNumbers, picked]
  | append_singleton ids last ih =>
    by_cases hpos : 0 < last
    · rw [ofNumbers_concat_of_pos hpos]
      by_cases hmet : last ∈ inUse ∧ last ∉ ids
      · simp only [note, hmet, not_false_eq_true, and_self, decide_true, List.mem_append, ih]
        grind
      · simp only [note, hmet, decide_false, List.mem_append, ih]
        grind
    · rw [ofNumbers_concat_of_nonpos (Int.not_lt.mp hpos)]
      simp only [note, List.mem_append, ih]
      grind

end

variable (inUse ids : List Int)

theorem nodup_deleted : (ofNumbers inUse ids).deleted.Nodup := by
  induction ids using List.reverseRecOn with
  | nil => exact List.nodup_nil
  | append_singleton ids last ih =>
    by_cases hpos : 0 < last
    · rw [ofNumbers_concat_of_pos hpos]
      by_cases hmet : last ∈ inUse ∧ last ∉ ids
      · have hnew : last ∉ (ofNumbers inUse ids).deleted := fun h => hmet.2 (mem_deleted_iff.mp h).1
        simpa [note, hmet] using ih.concat hnew
      · rw [decide_eq_false hmet]
        exact ih
    · rw [ofNumbers_concat_of_nonpos (Int.not_lt.mp hpos)]
      exact ih

theorem deleted_append_missing_perm :
    ((ofNumbers inUse ids).deleted ++ (ofNumbers inUse ids).missing).Perm (attempted ids) := by
  induction ids using List.reverseRecOn with
  | nil => exact .refl _
  | append_singleton ids last ih =>
    by_cases hpos : 0 < last
    · rw [ofNumbers_concat_of_pos hpos, attempted_concat_of_pos hpos]
      refine List.Perm.trans ?_ (ih.append_right [last])
      cases decide (last ∈ inUse ∧ last ∉ ids) with
      | false => exact .of_eq (List.append_assoc _ _ _).symm
      | true =>
        show ((_ ++ [last]) ++ _).Perm _
        rw [List.append_assoc, List.append_assoc]
        exact List.perm_append_comm.append_left _
    · have hnonpos := Int.not_lt.mp hpos
      rw [ofNumbers_concat_of_nonpos hnonpos, attempted_concat_of_nonpos hnonpos]
      exact ih

theorem length_ofNumbers :
    (ofNumbers inUse ids).deleted.length + (ofNumbers inUse ids).missing.length +
      (ofNumbers inUse ids).failed.length = ids.length := by
  have hpositive := (deleted_append_missing_perm inUse ids).length_eq
  have hall := List.length_eq_length_filter_add (fun id : Int => decide (0 < id)) (l := ids)
  have hrest : ids.filter (fun id => !decide (0 < id)) = ids.filter (· ≤ 0) := by
    refine List.filter_congr fun id _ => ?_
    rw [Bool.eq_iff_iff]
    simp
  rw [List.length_append] at hpositive
  rw [hrest] at hall
  rw [hpositive, ofNumbers, List.length_map, attempted, hall]

theorem isComplete_ofNumbers_iff :
    (ofNumbers inUse ids).isComplete = true ↔ ids.Nodup ∧ ∀ id ∈ ids, 0 < id ∧ id ∈ inUse := by
  have hpositive := deleted_append_missing_perm inUse ids
  have hfailed : (ofNumbers inUse ids).failed = [] ↔ ∀ id ∈ ids, 0 < id := by
    simp [ofNumbers, List.filter_eq_nil_iff]
  have hattempted (h : ∀ id ∈ ids, 0 < id) : attempted ids = ids :=
    List.filter_eq_self.mpr fun id hid => decide_eq_true (h id hid)
  rw [isComplete, Bool.and_eq_true, List.isEmpty_iff, List.isEmpty_iff, hfailed]
  constructor
  · rintro ⟨hmissing, hpos⟩
    rw [hmissing, List.append_nil, hattempted hpos] at hpositive
    refine ⟨hpositive.nodup_iff.mp (nodup_deleted inUse ids), fun id hid => ?_⟩
    exact (mem_deleted_iff.mp (hpositive.mem_iff.mpr hid)).2
  · rintro ⟨hnodup, hlive⟩
    have hpos : ∀ id ∈ ids, 0 < id := fun id hid => (hlive id hid).1
    -- each number is met once, so those that are met are the whole list
    have hmet : (ofNumbers inUse ids).deleted.Perm ids := by
      rw [List.perm_ext_iff_of_nodup (nodup_deleted inUse ids) hnodup]
      exact fun id => mem_deleted_iff.trans ⟨And.left, fun hid => ⟨hid, hlive id hid⟩⟩
    rw [hattempted hpos] at hpositive
    refine ⟨List.length_eq_zero_iff.mp ?_, hpos⟩
    have hlength := hpositive.length_eq
    have hmetLength := hmet.length_eq
    rw [List.length_append] at hlength
    omega

variable {ids} in
/-- Another order of the list changes the order within the groups alone. -/
theorem ofNumbers_perm {ids' : List Int} (h : ids'.Perm ids) :
    (ofNumbers inUse ids').deleted.Perm (ofNumbers inUse ids).deleted ∧
      (ofNumbers inUse ids').missing.Perm (ofNumbers inUse ids).missing ∧
      (ofNumbers inUse ids').failed.Perm (ofNumbers inUse ids).failed := by
  have hdeleted : (ofNumbers inUse ids').deleted.Perm (ofNumbers inUse ids).deleted := by
    rw [List.perm_ext_iff_of_nodup (nodup_deleted inUse ids') (nodup_deleted inUse ids)]
    intro id
    rw [mem_deleted_iff, mem_deleted_iff, h.mem_iff]
  have hboth := ((deleted_append_missing_perm inUse ids').trans (h.filter _)).trans
    (deleted_append_missing_perm inUse ids).symm
  refine ⟨hdeleted, ?_, (h.filter _).map _⟩
  exact (List.perm_append_left_iff _).mp (hboth.trans (hdeleted.symm.append_right _))

/-- The last number of a list is tried after all others. -/
theorem runFrom_concat (done : Removal) (id : Int) :
    runFrom done (ids ++ [id]) = (runFrom done ids).bind fun r =>
      (Registry.delete id).bind fun outcome => .done (r.note id outcome) := by
  induction ids generalizing done with
  | nil => rfl
  | cons first ids ih =>
    rw [List.cons_append, runFrom, runFrom, Program.bind_assoc]
    exact congrArg _ (funext fun outcome => ih _)

theorem run_run {s : Store} (h : s.Migrated) (now : Instant) :
    (run ids).run (Store.handle now) s =
      (ofNumbers s.view.numbers ids, s.without (attempted ids)) := by
  induction ids using List.reverseRecOn with
  | nil => exact Prod.ext rfl (s.without_nil).symm
  | append_singleton ids last ih =>
    rw [run] at ih ⊢
    rw [runFrom_concat, Program.run_bind, Program.run_bind, Program.run_done, ih]
    by_cases hpos : 0 < last
    -- the last number meets what the others have left
    · have hlive : (last ∈ (s.without (attempted ids)).view.numbers) ↔
          last ∈ s.view.numbers ∧ last ∉ ids := by
        rw [Store.numbers_without, List.mem_filter, decide_eq_true_eq, mem_attempted]
        simp [hpos]
      have hdelete := Store.handle_delete (Store.migrated_without h (attempted ids)) now last
      rw [delete_of_pos hpos, Program.run_perform, hdelete, ofNumbers_concat_of_pos hpos,
        attempted_concat_of_pos hpos, Store.without_append]
      simp only [hlive]
    · have hnonpos := Int.not_lt.mp hpos
      rw [delete_of_nonpos hnonpos, ofNumbers_concat_of_nonpos hnonpos,
        attempted_concat_of_nonpos hnonpos]
      rfl

section

variable {now : Instant} {w : Probe Store} {e : RegistryError}

theorem handle_of_refused {id : Int}
    (h : (Probe.handle (Store.handle now) (.delete id) w).1 = .error e) :
    Probe.handle (Store.handle now) (.delete id) w =
      (.error e, { w with calls := w.calls ++ [.delete] }) := by
  refine Prod.ext h ?_
  by_cases hop : StoreOp.Kind.delete ∈ w.failing
  · rw [Probe.handle_of_mem hop]
    rfl
  · rw [Probe.handle_of_notMem hop] at h ⊢
    rw [Store.handle_of_error h]
    rfl

theorem fst_handle_noted (op : StoreOp) (calls : List StoreOp.Kind) :
    (Probe.handle (Store.handle now) op { w with calls }).1 =
      (Probe.handle (Store.handle now) op w).1 := by
  unfold Probe.handle
  split <;> rfl

/-- While every removal is refused, all positive numbers are tried and fail with the refusal. -/
theorem runFrom_run_of_refused
    (h : ∀ id, (Probe.handle (Store.handle now) (.delete id) w).1 = .error e) (done : Removal) :
    (runFrom done ids).run (Probe.handle (Store.handle now)) w =
      (⟨done.deleted, done.missing,
          done.failed ++ ids.map fun id => (id, if 0 < id then e else badId "delete" id)⟩,
        { w with calls := w.calls ++ (attempted ids).map fun _ => .delete }) := by
  induction ids generalizing done w with
  | nil => simp [runFrom, attempted]
  | cons id ids ih =>
    rw [runFrom, Program.run_bind]
    by_cases hpos : 0 < id
    · rw [delete_of_pos hpos, Program.run_perform, handle_of_refused (h id),
        ih fun id' => (fst_handle_noted _ _).trans (h id')]
      simp [note, attempted, hpos]
    · rw [delete_of_nonpos (Int.not_lt.mp hpos), Program.run_done, ih h]
      simp [note, attempted, hpos]

end

end Removal

namespace Registry

/-- A removal from a store that has all its tables, whatever else it holds: the first places of
positive numbers in use are deleted, all other places of positive numbers are missing, the rest
fails for its number, each in the order of the list; the records left are those under other
numbers, and another order of the list leaves the same store and the same groups up to order.
While every removal is refused, the positive numbers fail with that failure of the store, which
stays as it is. -/
theorem removal_accounts_for_every_number (now : Instant) (ids : List Int) :
    (∀ s : Store, s.Migrated →
      let after := (Removal.run ids).run (Store.handle now) s
      after.1 = Removal.ofNumbers s.view.numbers ids ∧
        after.1.deleted.length + after.1.missing.length + after.1.failed.length = ids.length ∧
        after.2 = s.without (ids.filter (0 < ·)) ∧
        (after.1.isComplete = true ↔ ids.Nodup ∧ ∀ id ∈ ids, 0 < id ∧ id ∈ s.view.numbers) ∧
        ∀ ids' : List Int, ids'.Perm ids →
          let after' := (Removal.run ids').run (Store.handle now) s
          after'.2 = after.2 ∧ after'.1.deleted.Perm after.1.deleted ∧
            after'.1.missing.Perm after.1.missing ∧ after'.1.failed.Perm after.1.failed) ∧
      ∀ (w : Probe Store) (e : RegistryError),
        (∀ id, (Probe.handle (Store.handle now) (.delete id) w).1 = .error e) →
        let after := (Removal.run ids).run (Probe.handle (Store.handle now)) w
        (∃ cause, e = .storageFailure "delete" cause) ∧
          after.1 = ⟨[], [], ids.map fun id => (id, if 0 < id then e else badId "delete" id)⟩ ∧
          after.2.store = w.store := by
  refine ⟨fun s h => ?_, fun w e h => ⟨?_, ?_⟩⟩
  · intro after
    have hafter : after =
        (Removal.ofNumbers s.view.numbers ids, s.without (Removal.attempted ids)) :=
      Removal.run_run ids h now
    rw [hafter]
    refine ⟨rfl, Removal.length_ofNumbers _ ids, rfl, Removal.isComplete_ofNumbers_iff _ ids,
      fun ids' hperm => ?_⟩
    rw [Removal.run_run ids' h now]
    refine ⟨?_, Removal.ofNumbers_perm _ hperm⟩
    exact Store.without_congr (fun id => (hperm.filter _).mem_iff) s
  · have hrecord : (StoreOp.delete 0).kind.ofRecord = true := rfl
    exact Probe.error_of_handle hrecord (h 0)
  · rw [Removal.run, Removal.runFrom_run_of_refused ids h]
    exact ⟨rfl, rfl⟩

/-- A repeated number, absent ones and ones that no record can have. -/
theorem removal_accounts_for_repeated_numbers :
    let row (id : Int) : StationRow := .ofStation id (.ofEpoch 0 0) (.draft "a" none .charging)
    let s : Store := .database ⟨some ⟨[row 3, row 7, row 8], 8⟩, some .empty⟩
    let ids := [7, 0, 9, -4, 3, 7]
    ((Removal.run ids).run (Store.handle (.ofEpoch 1 0)) s).1 =
        ⟨[7, 3], [9, 7], [(0, badId "delete" 0), (-4, badId "delete" (-4))]⟩ ∧
      ((Removal.run ids).run (Probe.handle (Store.handle (.ofEpoch 1 0)))
        ⟨s, [.delete], "disk", []⟩).2.store = s := by
  intro row s ids
  obtain ⟨hserved, hrefused⟩ := removal_accounts_for_every_number (.ofEpoch 1 0) ids
  have hmigrated : s.Migrated := ⟨_, _, rfl, fun _ _ => trivial⟩
  have hgroups : Removal.ofNumbers [3, 7, 8] ids =
      ⟨[7, 3], [9, 7], [(0, badId "delete" 0), (-4, badId "delete" (-4))]⟩ := by decide +kernel
  have hfails (id : Int) : (Probe.handle (Store.handle (.ofEpoch 1 0)) (.delete id)
      ⟨s, [.delete], "disk", []⟩).1 = .error (.storageFailure "delete" "disk") := rfl
  exact ⟨(hserved s hmigrated).1.trans hgroups, (hrefused _ _ hfails).2.2⟩

end Registry

end ChargingRegister
