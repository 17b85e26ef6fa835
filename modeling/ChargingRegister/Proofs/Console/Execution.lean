import ChargingRegister.Console.Execution
import ChargingRegister.Proofs.Registry.Request
import ChargingRegister.Proofs.Store.Lookup
import ChargingRegister.Proofs.Store.View

/-!
# What commands about single stations come down to

Administrators pass the gate. A number that is not positive then decides the command without a
call, in a list it fails for itself; a positive one is looked up in what the store shows, and the
command goes on with the record that is found.
-/
namespace ChargingRegister

namespace Removal

/-- Nothing that has failed is forgotten. -/
theorem mem_failed_note {failure : Int × RegistryError} {done : Removal}
    (h : failure ∈ done.failed) (id : Int) (outcome : Registry.Result Bool) :
    failure ∈ (done.note id outcome).failed := by
  unfold note
  split
  · exact h
  · exact h
  · exact List.mem_append_left _ h

section

variable {σ : Type} (handle : Handler σ) {done : Removal} {ids : List Int} (s : σ)

theorem mem_failed_runFrom {failure : Int × RegistryError} (h : failure ∈ done.failed) :
    failure ∈ ((runFrom done ids).run handle s).1.failed := by
  induction ids generalizing done s with
  | nil => exact h
  | cons id ids ih =>
    rw [runFrom, Program.run_bind]
    exact ih _ (mem_failed_note h id _)

/-- A number that is not positive fails, whatever store is called for the others. -/
theorem badId_mem_failed {id : Int} (hmem : id ∈ ids) (hid : id ≤ 0) :
    (id, Registry.badId "delete" id) ∈ ((runFrom done ids).run handle s).1.failed := by
  induction ids generalizing done s with
  | nil => cases hmem
  | cons first ids ih =>
    rw [runFrom, Program.run_bind]
    rcases List.mem_cons.mp hmem with rfl | hrest
    · rw [Registry.delete_of_nonpos hid]
      exact mem_failed_runFrom handle s (List.mem_append_right _ List.mem_cons_self)
    · exact ih _ hrest

end

end Removal

theorem Store.handle_findById_of_legible {s : Store} (h : s.Rows StationRow.Legible)
    (now : Instant) (id : Int) : handle now (.findById id) s = (.ok (s.view.lookup id), s) := by
  have hreply : (handle now (.findById id) s).1 = .ok (s.view.lookup id) :=
    (handle_view_of_legible h (by simp [StoreOp.kind]) now).1
  exact Prod.ext hreply (handle_of_reads rfl now s)

namespace Command

open Registry

theorem execute_of_administrator {session : Session} (h : session.mode = .administrator)
    (c : Command) : c.execute session = c.perform := by
  have hmutates : session.mode.canMutate = true := by
    rw [h]
    rfl
  rw [execute, gate_of_canMutate hmutates]

theorem execute_inspect (session : Session) (id : Int) :
    (inspect id).execute session =
      withStation id fun station => .done (.ok (.station station)) := rfl

section

variable {id : Int} (hid : id ≤ 0)

include hid

theorem withStation_of_nonpos (next : Station → Program (Result Report)) :
    withStation id next = .done (.error (notFound id)) := by
  rw [withStation, find_of_nonpos hid]
  rfl

theorem perform_update_of_nonpos (patch : Patch) :
    (update id patch).perform = .done (.error (badId "update" id)) := by
  rw [perform, patchStation, checkId_of_nonpos hid]

theorem perform_setStatus_of_nonpos (status : Status) :
    (setStatus id status).perform = .done (.error (badId "update_status" id)) := by
  rw [perform, updateStatus_of_nonpos hid]
  rfl

theorem perform_delete_of_nonpos {ids : List Int} (hmem : id ∈ ids) {σ : Type}
    (handle : Handler σ) (s : σ) :
    ∃ summary : Removal, ((delete ids).perform.run handle s).1 = .ok (.removal summary) ∧
      (id, badId "delete" id) ∈ summary.failed := by
  rw [perform, Program.run_bind]
  exact ⟨_, rfl, Removal.badId_mem_failed handle s hmem hid⟩

end

section

variable {id : Int} (hid : 0 < id)

include hid

theorem perform_update_of_pos (patch : Patch) :
    (update id patch).perform = withStation id fun station =>
      reporting (Registry.update (patch.apply station)) (.outcome "update" id) := by
  rw [perform, patchStation, checkId_of_pos hid]

variable {s : Store} (hs : s.Rows StationRow.Legible) (now : Instant)

include hs

theorem run_withStation_of_none (hnone : s.view.lookup id = none)
    (next : Station → Program (Result Report)) :
    (withStation id next).run (Store.handle now) s = (.error (notFound id), s) := by
  rw [withStation, find_of_pos hid, Program.run_bind, Program.run_perform,
    Store.handle_findById_of_legible hs, hnone]
  rfl

theorem run_withStation_of_some {station : Station} (hsome : s.view.lookup id = some station)
    (next : Station → Program (Result Report)) :
    (withStation id next).run (Store.handle now) s = (next station).run (Store.handle now) s := by
  rw [withStation, find_of_pos hid, Program.run_bind, Program.run_perform,
    Store.handle_findById_of_legible hs, hsome]

end

end Command

end ChargingRegister
