import ChargingRegister.Proofs.Registry.Request

/-!
# Failures of the store

Behind a probe some operations of a store fail. Calls for one record say so and change nothing;
calls for a listing go on with nothing to list.
-/
namespace ChargingRegister.Registry

open Program

/-- A call that only reads leaves the store behind a probe alone, and what the probe refuses. -/
theorem probed_of_reads {op : StoreOp} (h : op.kind.writes = false) (now : Instant)
    (w : Probe Store) :
    let after := (Probe.handle (Store.handle now) op w).2
    (after.store, after.failing, after.cause) = (w.store, w.failing, w.cause) := by
  by_cases hop : op.kind ∈ w.failing
  · rw [Probe.handle_of_mem hop]
  · rw [Probe.handle_of_notMem hop, Store.handle_of_reads h]

theorem store_of_refused {op : StoreOp} {now : Instant} {w : Probe Store} {e : RegistryError}
    (h : (Probe.handle (Store.handle now) op w).1 = .error e) :
    (Probe.handle (Store.handle now) op w).2.store = w.store :=
  Probe.handle_cases op (P := fun reply s => reply = .error e → s = w.store) (fun _ _ => rfl)
    (fun hreply => Store.handle_of_error hreply) h

/-- An atomic program that answers with an error leaves the store behind a probe as it was. -/
theorem store_of_error {α : Type} {p : Program (Result α)} (hp : p.Atomic) {now : Instant}
    {w : Probe Store} {e : RegistryError}
    (h : (p.run (Probe.handle (Store.handle now)) w).1 = .error e) :
    (p.run (Probe.handle (Store.handle now)) w).2.store = w.store :=
  hp.part_run_of_error (f := Probe.store)
    (fun _ w hop => congrArg Prod.fst (probed_of_reads hop now w))
    (fun _ _ _ hrefused => store_of_refused hrefused) h

/-- The store that every call of a record call meets is the one at its start. -/
theorem reply_of_mem_trace (c : RecordCall) (now : Instant) (w : Probe Store) :
    ∀ a ∈ c.program.trace (Probe.handle (Store.handle now)) w,
      a.2 = if a.1.kind ∈ w.failing then .error (.storageFailure a.1.kind.name w.cause)
        else (Store.handle now a.1 w.store).1 := by
  intro a ha
  obtain ⟨w', hw', hreply⟩ := c.program_atomic.reply_of_mem_trace
    (f := fun w : Probe Store => (w.store, w.failing, w.cause))
    (fun op w hop => probed_of_reads hop now w) w a ha
  obtain ⟨hstore, hfailing, hcause⟩ : w'.store = w.store ∧ w'.failing = w.failing ∧
      w'.cause = w.cause := by simpa using hw'
  rw [hreply, ← hstore, ← hfailing, ← hcause]
  split
  case isTrue hop => rw [Probe.handle_of_mem hop]; rfl
  case isFalse hop => rw [Probe.handle_of_notMem hop]

/-- A failing call fails in its own name and with the cause of the probe. -/
theorem run_program_of_healthy (c : RecordCall) (now : Instant) {w : Probe Store}
    (h : w.store.Healthy) (operation cause : String) :
    (c.program.run (Probe.handle (Store.handle now)) w).1 =
        .error (.storageFailure operation cause) ↔
      ∃ a ∈ c.program.trace (Probe.handle (Store.handle now)) w,
        a.1.kind ∈ w.failing ∧ operation = a.1.kind.name ∧ cause = w.cause := by
  rw [c.program_atomic.run_eq_storageFailure_iff]
  refine exists_congr fun a => and_congr_right fun ha => ?_
  have hreply := reply_of_mem_trace c now w a ha
  by_cases hop : a.1.kind ∈ w.failing
  · rw [hreply, if_pos hop]
    simp [hop, eq_comm]
  · have hkind := c.ofRecord_of_mem_trace _ w a ha
    obtain ⟨answer, hanswer⟩ := h.reply_ok hkind now
    rw [hreply, if_neg hop, hanswer]
    simp [hop]

theorem operation_of_mem_trace (c : RecordCall) (now : Instant) (w : Probe Store) :
    ∀ a ∈ c.program.trace (Probe.handle (Store.handle now)) w, ∀ operation cause,
      a.2 = .error (.storageFailure operation cause) → operation = a.1.kind.name := by
  intro a ha operation cause h
  rw [reply_of_mem_trace c now w a ha] at h
  split at h
  case isTrue => exact (RegistryError.storageFailure.inj (Except.error.inj h)).1.symm
  case isFalse =>
    have hkind := c.ofRecord_of_mem_trace _ w a ha
    obtain ⟨cause', he⟩ := Store.error_of_handle hkind h
    exact (RegistryError.storageFailure.inj he).1

/-- Whatever a store holds and whichever operations fail: a call for one record writes at most
once, at its end, changes nothing when it answers with an error, and tells of a failure just when
one of its calls failed, in the words of that failure; on a healthy store those are the calls on
the list. A call for a listing, whose answers have no errors, reads once, changes nothing and
lists nothing when its read fails. -/
theorem failures_are_atomic (now : Instant) (w : Probe Store) :
    (∀ c : RecordCall,
      let after := c.program.run (Probe.handle (Store.handle now)) w
      let calls := c.program.trace (Probe.handle (Store.handle now)) w
      (∀ a ∈ calls.dropLast, a.1.kind.writes = false) ∧
        (∀ e, after.1 = .error e → after.2.store = w.store) ∧
        (∀ operation cause, after.1 = .error (.storageFailure operation cause) ↔
          ∃ a ∈ calls, operation = a.1.kind.name ∧
            a.2 = .error (.storageFailure operation cause)) ∧
        (w.store.Healthy → ∀ operation cause,
          after.1 = .error (.storageFailure operation cause) ↔
            ∃ a ∈ calls, a.1.kind ∈ w.failing ∧ operation = a.1.kind.name ∧ cause = w.cause)) ∧
      ∀ c : ListingCall,
        let after := c.program.run (Probe.handle (Store.handle now)) w
        let calls := c.program.trace (Probe.handle (Store.handle now)) w
        calls.map Sigma.fst = [c.operation] ∧ c.operation.kind.writes = false ∧
          after.2.store = w.store ∧
          (c.operation.kind ∈ w.failing → after.1 = c.nothing) ∧
          ∀ a ∈ calls, ∀ e, a.2 = .error e → after.1 = c.nothing := by
  refine ⟨fun c => ⟨?_, ?_, ?_, fun h => run_program_of_healthy c now h⟩,
    fun c => ⟨?_, ?_, ?_, ?_, ?_⟩⟩
  · exact c.program_atomic.writes_of_mem_dropLast w
  · exact fun e he => store_of_error c.program_atomic he
  · intro operation cause
    rw [c.program_atomic.run_eq_storageFailure_iff]
    refine exists_congr fun a => and_congr_right fun ha => ?_
    exact ⟨fun h => ⟨operation_of_mem_trace c now w a ha operation cause h, h⟩, And.right⟩
  · rw [ListingCall.trace_program]
    rfl
  · exact c.writes_operation
  · rw [ListingCall.run_program_snd]
    exact congrArg Prod.fst (probed_of_reads c.writes_operation now w)
  · intro hop
    refine ListingCall.run_program_of_error _ (e := w.refusal c.operation) ?_
    rw [Probe.handle_of_mem hop]
  · intro a ha e he
    rw [ListingCall.trace_program, List.mem_singleton] at ha
    subst ha
    exact ListingCall.run_program_of_error _ he

end ChargingRegister.Registry
