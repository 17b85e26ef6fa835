import ChargingRegister.Proofs.Registry.Request
import ChargingRegister.Proofs.Store.Integrity

/-!
# Records stay sound

Whatever is asked of the register, and whatever fails meanwhile, a store that was new holds sound
records. So a change of status never meets a record that the register would not write back, and
input is refused before any call of the store.
-/
namespace ChargingRegister

namespace Registry

variable {σ : Type} (handle : Handler σ)

def WritesNamed (calls : List StoreAnswer) : Prop :=
  ∀ a ∈ calls, ∀ r ∈ a.1.written?, Text.blank r.name = false

theorem writesNamed_nil : WritesNamed [] :=
  fun _ h => absurd h List.not_mem_nil

theorem update_writesNamed (station : Station) (s : σ) :
    WritesNamed ((update station).trace handle s) := by
  rcases update_cases station with ⟨reason, h⟩ | ⟨hname, h⟩ <;> rw [h]
  · exact writesNamed_nil
  · refine List.forall_mem_singleton.mpr fun r hr => ?_
    exact Option.some.inj hr ▸ hname

theorem writeBack_writesNamed (id : Int) (status : Status) (reply : StoreReply (.findById id))
    (s : σ) : WritesNamed ((writeBack id status reply).trace handle s) := by
  match reply with
  | .error e => exact writesNamed_nil
  | .ok none => exact writesNamed_nil
  | .ok (some station) => exact update_writesNamed handle _ s

theorem RecordCall.writesNamed (c : RecordCall) (s : σ) :
    WritesNamed (c.program.trace handle s) := by
  refine c.program_cases (P := fun {_} p => WritesNamed (p.trace handle s))
    ?refused ?absent ?performed ?rewritten
  case refused => exact fun operation reason => writesNamed_nil
  case absent => exact writesNamed_nil
  case performed => exact fun op _ hnamed => List.forall_mem_singleton.mpr hnamed
  case rewritten =>
    exact fun id status _ => List.forall_mem_cons.mpr
      ⟨named_of_unwritten rfl, writeBack_writesNamed handle id status _ _⟩

theorem Request.writesNamed (r : Request) (s : σ) : WritesNamed (r.program.trace handle s) := by
  cases r with
  | record c => exact c.writesNamed handle s
  | listing c =>
    show WritesNamed (c.program.trace handle s)
    rw [c.trace_program]
    exact List.forall_mem_singleton.mpr
      (named_of_unwritten (StoreOp.written?_of_reads c.writes_operation))

theorem Request.eq_create_of_creates {r : Request} (h : r.creates = true) :
    ∃ station, r = .record (.create station) ∧ Text.blank station.name = false := by
  match r with
  | .record (.create station) =>
    exact ⟨station, rfl, by simpa [creates, RecordCall.creates] using h⟩

theorem RecordCall.insert_notMem_trace {c : RecordCall} (h : c.creates = false) (s : σ) :
    ∀ a ∈ c.program.trace handle s, a.1.kind ≠ .insert := by
  have hkinds {α : Type} {p : Program α} {kinds : List StoreOp.Kind} (hp : p.CallsOnly kinds)
      (hnone : .insert ∉ kinds) : ∀ a ∈ p.trace handle s, a.1.kind ≠ .insert :=
    fun a ha heq => hnone (heq ▸ hp.kind_of_mem_trace handle s a ha)
  cases c with
  | create station =>
    have hblank : Text.blank station.name = true := by simpa [creates] using h
    rw [program, create_of_blank hblank]
    exact fun _ ha => absurd ha List.not_mem_nil
  | update station => exact hkinds (update_callsOnly station) (by decide)
  | updateStatus id status => exact hkinds (updateStatus_callsOnly id status) (by decide)
  | delete id => exact hkinds (delete_callsOnly id) (by decide)
  | find id => exact hkinds (find_callsOnly id) (by decide)

theorem Request.insert_notMem_trace {r : Request} (h : r.creates = false) (s : σ) :
    ∀ a ∈ r.program.trace handle s, a.1.kind ≠ .insert := by
  cases r with
  | record c => exact RecordCall.insert_notMem_trace handle h s
  | listing c =>
    have hreads := c.writes_operation
    show ∀ a ∈ c.program.trace handle s, a.1.kind ≠ .insert
    rw [c.trace_program]
    refine List.forall_mem_singleton.mpr fun heq => ?_
    rw [show c.operation.kind = .insert from heq] at hreads
    cases hreads

/-- A request with the instant it meets, and with the operations that fail meanwhile. -/
structure Turn where
  request : Request
  now : Instant
  failing : List StoreOp.Kind
  cause : String

namespace Turn

def handler (t : Turn) : Handler (Probe Store) :=
  Probe.handle (Store.handle t.now)

def creates (t : Turn) : Bool :=
  t.request.creates

/-- What the turn answers, and the probe afterwards, which has noted the calls. -/
def play (t : Turn) (s : Store) : t.request.Answer × Probe Store :=
  t.request.program.run t.handler ⟨s, t.failing, t.cause, []⟩

theorem sound_play {s : Store} (h : s.view.Sound) (t : Turn) :
    (t.play s).2.store.view.Sound := by
  refine Program.run_preserves (P := fun w : Probe Store => w.store.view.Sound) _ _ ?_ h
  intro a ha w hw
  have hnamed := t.request.writesNamed t.handler _ a ha
  exact Probe.handle_cases a.1 (P := fun _ (s : Store) => s.view.Sound) (fun _ => hw)
    (Store.sound_view_handle hw hnamed t.now)

theorem nextStation_play_le (t : Turn) (s : Store) :
    (t.play s).2.store.view.nextStation ≤
      s.view.nextStation + if t.creates then 1 else 0 := by
  have hcall (op : StoreOp) (w : Probe Store) :
      (t.handler op w).2.store.view.nextStation ≤
        w.store.view.nextStation + if op.kind = .insert then 1 else 0 :=
    Probe.handle_cases op (P := fun _ (s : Store) => s.view.nextStation ≤
        w.store.view.nextStation + if op.kind = .insert then 1 else 0)
      (fun _ => by split <;> omega) (Store.nextStation_view_handle_le t.now op w.store)
  obtain ⟨request, now, failing, cause⟩ := t
  cases hcreates : request.creates with
  | true =>
    obtain ⟨station, rfl, hname⟩ := Request.eq_create_of_creates hcreates
    have hplay : play ⟨.record (.create station), now, failing, cause⟩ s =
        (Program.perform (.insert station)).run (Probe.handle (Store.handle now))
          ⟨s, failing, cause, []⟩ :=
      congrArg (fun p => Program.run _ p _) (create_of_named hname)
    rw [hplay, creates, hcreates]
    exact hcall (.insert station) ⟨s, failing, cause, []⟩
  | false =>
    rw [creates, hcreates]
    -- no call of the request adds a record
    refine Program.run_preserves
      (P := fun w : Probe Store => w.store.view.nextStation ≤ s.view.nextStation + 0) _ _ ?_
      (Int.add_zero _).ge
    intro a ha w hw
    have hother := Request.insert_notMem_trace _ hcreates _ a ha
    have hstep := hcall a.1 w
    rw [if_neg hother] at hstep
    exact hstep.trans ((Int.add_zero _).trans_le hw)

end Turn

/-- What a store has become after some turns. -/
def playAll (turns : List Turn) (s : Store) : Store :=
  turns.foldl (fun s t => (t.play s).2.store) s

theorem sound_playAll {s : Store} (h : s.view.Sound) (turns : List Turn) :
    (playAll turns s).view.Sound := by
  induction turns generalizing s with
  | nil => exact h
  | cons t turns ih => exact ih (t.sound_play h)

theorem nextStation_playAll_le (turns : List Turn) (s : Store) :
    (playAll turns s).view.nextStation ≤
      s.view.nextStation + turns.countP Turn.creates := by
  induction turns generalizing s with
  | nil => exact (Int.add_zero _).ge
  | cons t turns ih =>
    have hfirst := t.nextStation_play_le s
    have hrest := ih (t.play s).2.store
    show (playAll turns (t.play s).2.store).view.nextStation ≤ _
    by_cases hcreates : t.creates = true
    · rw [if_pos hcreates] at hfirst
      rw [List.countP_cons_of_pos hcreates]
      omega
    · rw [if_neg hcreates] at hfirst
      rw [List.countP_cons_of_neg hcreates]
      omega

section

variable {now : Instant} {w : Probe Store}

theorem perform_ne_invalidInput {op : StoreOp} (hop : op.kind.ofRecord = true)
    (operation reason : String) :
    ((Program.perform op).run (Probe.handle (Store.handle now)) w).1 ≠
      .error (.invalidInput operation reason) := by
  intro h
  obtain ⟨cause, hcause⟩ := Probe.error_of_handle hop h
  cases hcause

theorem updateStatus_ne_invalidInput (h : w.store.view.Sound) {id : Int} (hid : 0 < id)
    (status : Status) (operation reason : String) :
    ((updateStatus id status).run (Probe.handle (Store.handle now)) w).1 ≠
      .error (.invalidInput operation reason) := by
  rw [updateStatus_of_pos hid, Program.run_call]
  cases hreply : (Probe.handle (Store.handle now) (.findById id) w).1 with
  | error e =>
    obtain ⟨cause, rfl⟩ := Probe.error_of_handle rfl hreply
    exact nofun
  | ok found =>
    cases found with
    | none => exact nofun
    | some station =>
      by_cases hrefused : StoreOp.Kind.findById ∈ w.failing
      · rw [Probe.handle_of_mem hrefused] at hreply
        cases hreply
      · rw [Probe.handle_of_notMem hrefused] at hreply
        obtain ⟨hmem, rfl⟩ := Store.mem_of_findById hreply
        have hname := h.named station hmem
        have hwrite : update { station with status } = .perform (.update _) :=
          update_of_named hid hname
        show (Program.run _ (update { station with status }) _).1 ≠ _
        rw [hwrite]
        exact perform_ne_invalidInput rfl operation reason

/-- Input is refused before any call. -/
theorem trace_of_invalidInput (h : w.store.view.Sound) {c : RecordCall}
    {operation reason : String} (hrefused : (c.program.run (Probe.handle (Store.handle now)) w).1 =
      .error (.invalidInput operation reason)) :
    c.program.trace (Probe.handle (Store.handle now)) w = [] := by
  revert hrefused
  refine c.program_cases (P := fun {_} p =>
    (p.run (Probe.handle (Store.handle now)) w).1 = .error (.invalidInput operation reason) →
      p.trace (Probe.handle (Store.handle now)) w = []) ?refused ?absent ?performed ?rewritten
  case refused => exact fun _ _ _ => rfl
  case absent => exact fun _ => rfl
  case performed =>
    exact fun op hop _ hrefused => absurd hrefused (perform_ne_invalidInput hop operation reason)
  case rewritten =>
    intro id status hid hrefused
    rw [← updateStatus_of_pos hid] at hrefused
    exact absurd hrefused (updateStatus_ne_invalidInput h hid status operation reason)

end

/-- From a new store on, through any requests and failures: the records have distinct positive
numbers and names that are not blank, input is refused before any call of the store, and a change
of status with a positive number is never refused for its input. No number is greater than the
number of requests that add a record, so 64 bits hold it for `Table.maxNumber` of them. -/
theorem records_stay_sound {start : Store} (hstart : start.IsNew) (turns : List Turn) (t : Turn) :
    let s := playAll turns start
    let after := t.play s
    (s.stations.Pairwise (fun a b => a.id ≠ b.id) ∧
        ∀ r ∈ s.stations, (0 < r.id ∧ r.id ≤ turns.countP Turn.creates) ∧
          Text.blank r.name = false) ∧
      (t.request.RefusesInput after.1 → after.2.calls = []) ∧
      ∀ id status, t.request = .record (.updateStatus id status) → 0 < id →
        ¬ t.request.RefusesInput after.1 := by
  intro s after
  have hsound : s.view.Sound := sound_playAll (Store.sound_view_of_isNew hstart) turns
  refine ⟨?_, ?_, ?_⟩
  · have hnext := nextStation_playAll_le turns start
    have hfirst : start.view.nextStation = 1 := by rcases hstart with rfl | rfl <;> rfl
    rw [Store.stations_eq_view]
    refine ⟨hsound.distinct, fun r hr => ⟨?_, hsound.named r hr⟩⟩
    have hnumber : 0 < r.id ∧ r.id < (playAll turns start).view.nextStation :=
      hsound.numbered r hr
    omega
  · obtain ⟨request, now, failing, cause⟩ := t
    cases request with
    | listing c => exact False.elim
    | record c =>
      rintro ⟨operation, reason, hrefused⟩
      have htrace := trace_of_invalidInput (w := ⟨s, failing, cause, []⟩) hsound hrefused
      show (Program.run (Probe.handle (Store.handle now)) c.program _).2.calls = []
      rw [Probe.calls_run_eq_trace, htrace]
      rfl
  · obtain ⟨request, now, failing, cause⟩ := t
    rintro id status rfl hid ⟨operation, reason, hrefused⟩
    exact updateStatus_ne_invalidInput (w := ⟨s, failing, cause, []⟩) hsound hid status _ _ hrefused

theorem records_stay_sound_through_failures :
    let turns : List Turn :=
      [⟨.record (.create (.draft "a" none .available)), .ofEpoch 0 0, [], ""⟩,
        ⟨.record (.delete 1), .ofEpoch 1 0, [.delete], "disk"⟩]
    let t : Turn := ⟨.record (.updateStatus 1 .charging), .ofEpoch 2 0, [.update], "disk"⟩
    let s := playAll turns (.database .fresh)
    s.stations.Pairwise (fun a b => a.id ≠ b.id) ∧ ¬ t.request.RefusesInput (t.play s).1 :=
  have h := records_stay_sound (.inr rfl) _ _
  ⟨h.1.1, h.2.2 1 .charging rfl (by decide)⟩

end Registry

end ChargingRegister
