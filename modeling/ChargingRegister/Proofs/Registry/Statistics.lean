import ChargingRegister.Proofs.Listing.Canonical
import ChargingRegister.Proofs.Registry.Failure
import ChargingRegister.Proofs.Registry.Integrity
import Mathlib.Algebra.GroupWithZero.Nat

/-!
# Statistics follow the register

The statistics count the records that a listing shows, and so do those of a snapshot that was just
loaded. One call of the register moves at most one record: a creation adds one, a deletion takes
away the one with its number, a change puts the record with its number under another status or
under the same one again, and whatever is refused or meets no record changes no count.
-/
namespace ChargingRegister

theorem Filter.apply_make_of_status {text : String} (h : Text.blank text = true) (status : Status)
    (stations : List Station) :
    (make text (some status)).apply stations = stations.filter (·.status == status) := by
  have hkeeps : (make text (some status)).keeps =
      fun s => (make text none).keeps s && s.status == status := by
    funext s
    simp only [keeps, make, Option.all_none, Option.all_some, Bool.and_true]
  rw [apply, hkeeps, ← List.filter_filter]
  exact apply_make_of_blank h _

namespace Tally

section

variable (stations : List Station)

theorem countOf_eq_length (status : Status) :
    countOf status stations = (stations.filter (·.status == status)).length :=
  List.countP_eq_length_filter

/-- Every station has one of the three statuses. -/
theorem sum_countOf : (Status.all.map fun c => countOf c stations).sum = stations.length := by
  induction stations with
  | nil => rfl
  | cons s stations ih =>
    simp only [Status.all, List.map_cons, List.map_nil, List.sum_cons, List.sum_nil, countOf,
      List.countP_cons, List.length_cons] at ih ⊢
    cases s.status <;> simp <;> omega

end

theorem ofStations_perm {l l' : List Station} (h : l.Perm l') : ofStations l = ofStations l' := by
  have hcount (c : Status) : countOf c l = countOf c l' := h.countP_eq _
  rw [ofStations, ofStations, hcount, hcount, hcount, h.length_eq]

/-- Records of the first statuses are gone, and there are new ones of the second. -/
structure Moves (before after : Tally) (out into : List Status) : Prop where
  count : ∀ c, after.count c + out.count c = before.count c + into.count c
  total : after.total + out.length = before.total + into.length

theorem moves_ofStations (front out into back : List Station) :
    (ofStations (front ++ out ++ back)).Moves (ofStations (front ++ into ++ back))
      (out.map Station.status) (into.map Station.status) where
  count c := by
    have hcount (l : List Station) : (l.map Station.status).count c = countOf c l := by
      rw [List.count, List.countP_map]
      rfl
    simp only [count_ofStations, hcount, countOf, List.countP_append]
    omega
  total := by
    simp only [ofStations, List.length_append, List.length_map]
    omega

/-- What a call that adds a record does to the counts. -/
def Added (before after : Tally) (status : Status) : Registry.Result Station → Prop
  | .ok _ => before.Moves after [] [status]
  | .error _ => after = before

/-- What a call that rewrites the record with a number does to the counts: when it met one of the
stations, that one leaves its status. -/
def Rewritten (before : Tally) (all : List Station) (after : Tally) (id : Int)
    (into : List Status) : Registry.Result Bool → Prop
  | .ok true => ∃ r ∈ all, r.id = id ∧ before.Moves after [r.status] into
  | _ => after = before

theorem Rewritten.mono {before after : Tally} {all all' : List Station} {id : Int}
    {into : List Status} {answer : Registry.Result Bool}
    (h : before.Rewritten all after id into answer) (hsub : ∀ s ∈ all, s ∈ all') :
    before.Rewritten all' after id into answer := by
  match answer, h with
  | .ok true, ⟨r, hr, hmoves⟩ => exact ⟨r, hsub r hr, hmoves⟩
  | .ok false, h => exact h
  | .error _, h => exact h

end Tally

namespace MemoryStore

variable {m : MemoryStore}

theorem Numbered.exists_around (h : m.Numbered) {r : Station} (hr : r ∈ m.stations) :
    ∃ front back, m.stations = front ++ [r] ++ back ∧ ∀ r' ∈ front ++ back, r'.id ≠ r.id := by
  obtain ⟨front, back, heq⟩ := List.append_of_mem hr
  refine ⟨front, back, by rw [heq, List.append_assoc, List.singleton_append], fun r' hr' hid => ?_⟩
  have hdistinct := h.distinct
  rw [numbers, heq, List.map_append, List.map_cons, List.nodup_middle, List.nodup_cons,
    ← List.map_append] at hdistinct
  exact hdistinct.1 (hid ▸ List.mem_map_of_mem hr')

theorem replace_of_ne {s : Station} {stations : List Station} (h : ∀ r ∈ stations, r.id ≠ s.id) :
    replace s stations = stations :=
  (List.map_congr_left fun r hr => if_neg (h r hr)).trans (List.map_id' stations)

theorem ne_of_lookup {id : Int} (h : m.lookup id = none) : ∀ r ∈ m.stations, r.id ≠ id := by
  simpa [lookup] using h

theorem rewritten_update (h : m.Numbered) (now : Instant) (s : Station) :
    (Tally.ofStations m.stations).Rewritten m.stations
      (.ofStations (handle now (.update s) m).2.stations) s.id [s.status]
      (handle now (.update s) m).1 := by
  have hstations : (handle now (.update s) m).2.stations =
      replace { s with lastUpdated := some now } m.stations := rfl
  rw [handle_update, hstations]
  cases hfound : m.lookup s.id with
  | none => exact congrArg Tally.ofStations (replace_of_ne (ne_of_lookup hfound))
  | some r =>
    have hr : r ∈ m.stations := List.mem_of_find?_eq_some hfound
    have hid : r.id = s.id := id_of_lookup hfound
    obtain ⟨front, back, heq, hother⟩ := h.exists_around hr
    rw [hid] at hother
    obtain ⟨hfront, hback⟩ := List.forall_mem_append.mp hother
    have hreplaced : replace { s with lastUpdated := some now } m.stations =
        front ++ [{ s with lastUpdated := some now }] ++ back := by
      rw [heq, replace, List.map_append, List.map_append, List.map_singleton, if_pos hid]
      exact congrArg₂ (fun front back => front ++ _ ++ back) (replace_of_ne hfront)
        (replace_of_ne hback)
    rw [hreplaced]
    refine ⟨r, hr, hid, ?_⟩
    rw [heq]
    exact Tally.moves_ofStations front [r] [_] back

theorem rewritten_delete (h : m.Numbered) (now : Instant) (id : Int) :
    (Tally.ofStations m.stations).Rewritten m.stations
      (.ofStations (handle now (.delete id) m).2.stations) id [] (handle now (.delete id) m).1 := by
  have hstations : (handle now (.delete id) m).2.stations = m.stations.filter (·.id != id) := rfl
  rw [handle_delete, hstations]
  cases hfound : m.lookup id with
  | none =>
    refine congrArg Tally.ofStations (List.filter_eq_self.mpr fun r hr => ?_)
    exact bne_iff_ne.mpr (ne_of_lookup hfound r hr)
  | some r =>
    have hr : r ∈ m.stations := List.mem_of_find?_eq_some hfound
    have hid : r.id = id := id_of_lookup hfound
    obtain ⟨front, back, heq, hother⟩ := h.exists_around hr
    rw [hid] at hother
    obtain ⟨hfront, hback⟩ := List.forall_mem_append.mp hother
    have hkept : ∀ l : List Station, (∀ r' ∈ l, r'.id ≠ id) → l.filter (·.id != id) = l :=
      fun l hl => List.filter_eq_self.mpr fun r' hr' => bne_iff_ne.mpr (hl r' hr')
    have hleft : m.stations.filter (·.id != id) = front ++ [] ++ back := by
      have hgone : [r].filter (·.id != id) = [] := by simp [hid]
      rw [heq, List.filter_append, List.filter_append, hkept front hfront, hkept back hback, hgone]
    rw [hleft]
    refine ⟨r, hr, hid, ?_⟩
    rw [heq]
    exact Tally.moves_ofStations front [r] [] back

end MemoryStore

def Store.tally (s : Store) : Tally :=
  .ofStations s.stations

namespace Registry

section

variable {s : Store} (h : s.Rows StationRow.Kept) (now : Instant)
include h

theorem statistics_run :
    statistics.run (Store.handle now) s = (s.tally, s) := by
  rw [statistics, Program.run_bind, findAll_run h, Program.run_done,
    Tally.ofStations_perm (listed_perm s.stations), Store.tally]

theorem loadAll_run :
    Snapshot.loadAll.run (Store.handle now) s = (⟨listed s.stations⟩, s) := by
  rw [Snapshot.loadAll, Program.run_bind, findAll_run h, Program.run_done]

end

/-- What a call does to the counts when it is answered so: a creation adds a record of its status,
a change or a deletion takes the record with the number out of its status. -/
def Request.Moves (all : List Station) (before after : Tally) : (r : Request) → r.Answer → Prop
  | .record (.create station) => before.Added after station.status
  | .record (.update station) => before.Rewritten all after station.id [station.status]
  | .record (.updateStatus id status) => before.Rewritten all after id [status]
  | .record (.delete id) => before.Rewritten all after id []
  | .record (.find _) | .listing _ => fun _ => after = before

theorem Request.Moves.mono {all all' : List Station} {before after : Tally} {r : Request}
    {answer : r.Answer} (h : r.Moves all before after answer) (hsub : ∀ s ∈ all, s ∈ all') :
    r.Moves all' before after answer := by
  cases r with
  | listing c => exact h
  | record c =>
    cases c with
    | create | find => exact h
    | update | updateStatus | delete => exact Tally.Rewritten.mono h hsub

section

variable {now : Instant} {w : Probe Store} (hrows : w.store.Rows StationRow.Kept)
  (hnumbered : w.store.view.Numbered)

theorem added_create {station : Station} {after : Result Station × Probe Store}
    (hrun : (create station).run (Probe.handle (Store.handle now)) w = after) :
    w.store.tally.Added after.2.store.tally station.status after.1 := by
  have hcases := create_cases station
  generalize create station = p at hcases hrun
  subst hrun
  rcases hcases with ⟨reason, rfl⟩ | ⟨-, rfl⟩
  · rfl
  · rw [Program.run_perform]
    refine Probe.handle_cases (.insert station)
      (P := fun reply (s : Store) => w.store.tally.Added s.tally station.status reply)
      (fun e => rfl) ?_
    rcases Store.handle_insert_cases now station w.store with ⟨e, hfull⟩ | ⟨r, hreply, -, hview⟩
    · rw [hfull]
      rfl
    · have hadded : (Store.handle now (.insert station) w.store).2.stations =
          w.store.stations ++
            [{ station with id := w.store.view.nextStation, lastUpdated := some now }] := by
        rw [Store.stations_eq_view, hview, Store.stations_eq_view]
        rfl
      have hmoves := Tally.moves_ofStations w.store.stations []
        [{ station with id := w.store.view.nextStation, lastUpdated := some now }] []
      rw [List.append_nil, List.append_nil, List.append_nil, ← hadded] at hmoves
      rw [hreply]
      exact hmoves

include hrows hnumbered

theorem rewritten_update {station : Station} {after : Result Bool × Probe Store}
    (hrun : (update station).run (Probe.handle (Store.handle now)) w = after) :
    w.store.tally.Rewritten w.store.stations after.2.store.tally station.id [station.status]
      after.1 := by
  subst hrun
  rcases update_cases station with ⟨reason, heq⟩ | ⟨-, heq⟩ <;> rw [heq]
  · rfl
  · rw [Program.run_perform]
    refine Probe.handle_cases (.update station)
      (P := fun reply (s : Store) => w.store.tally.Rewritten w.store.stations s.tally station.id
        [station.status] reply) (fun e => rfl) ?_
    obtain ⟨hreply, hview⟩ := Store.handle_view_of_legible (hrows.mono fun _ hr => hr.legible)
      (show (StoreOp.update station).kind ∈ _ from List.mem_cons_self) now
    rw [Store.tally, Store.tally, hreply, Store.stations_eq_view, Store.stations_eq_view, hview]
    exact MemoryStore.rewritten_update hnumbered now station

theorem rewritten_delete {id : Int} {after : Result Bool × Probe Store}
    (hrun : (delete id).run (Probe.handle (Store.handle now)) w = after) :
    w.store.tally.Rewritten w.store.stations after.2.store.tally id [] after.1 := by
  subst hrun
  rcases delete_cases id with ⟨reason, heq⟩ | heq <;> rw [heq]
  · rfl
  · rw [Program.run_perform]
    refine Probe.handle_cases (.delete id)
      (P := fun reply (s : Store) => w.store.tally.Rewritten w.store.stations s.tally id [] reply)
      (fun e => rfl) ?_
    obtain ⟨hreply, hview⟩ := Store.handle_view_of_legible (hrows.mono fun _ hr => hr.legible)
      (show (StoreOp.delete id).kind ∈ _ from List.mem_cons_of_mem _ List.mem_cons_self) now
    rw [Store.tally, Store.tally, hreply, Store.stations_eq_view, Store.stations_eq_view, hview]
    exact MemoryStore.rewritten_delete hnumbered now id

theorem rewritten_updateStatus {id : Int} {status : Status} {after : Result Bool × Probe Store}
    (hrun : (updateStatus id status).run (Probe.handle (Store.handle now)) w = after) :
    w.store.tally.Rewritten w.store.stations after.2.store.tally id [status] after.1 := by
  rcases updateStatus_cases id status with ⟨reason, heq⟩ | ⟨-, heq⟩ <;> rw [heq] at hrun
  · subst hrun
    rfl
  · -- the write meets the store that the read has left alone
    have hstore : (Probe.handle (Store.handle now) (.findById id) w).2.store = w.store :=
      congrArg Prod.fst (probed_of_reads rfl now w)
    have hfound : ∀ r, (Probe.handle (Store.handle now) (.findById id) w).1 = .ok (some r) →
        r.id = id :=
      Probe.handle_cases (.findById id) (P := fun reply _ => ∀ r, reply = .ok (some r) → r.id = id)
        (fun e r => nofun) fun r hr => (Store.mem_of_findById hr).2
    rw [Program.run_call] at hrun
    generalize Probe.handle (Store.handle now) (.findById id) w = read at hstore hfound hrun
    obtain ⟨reply, w'⟩ := read
    have hstore : w'.store = w.store := hstore
    cases reply with
    | error e =>
      subst hrun
      exact congrArg Store.tally hstore
    | ok found =>
      cases found with
      | none =>
        subst hrun
        exact congrArg Store.tally hstore
      | some r =>
        have hid : r.id = id := hfound r rfl
        have hrun : (update { r with status }).run (Probe.handle (Store.handle now)) w' = after :=
          hrun
        have hwrite := rewritten_update (hstore ▸ hrows) (hstore ▸ hnumbered) hrun
        rw [hstore] at hwrite
        exact hid ▸ hwrite

/-- One call moves at most one record, whatever fails meanwhile. -/
theorem moves_run {r : Request} {after : r.Answer × Probe Store}
    (hrun : r.program.run (Probe.handle (Store.handle now)) w = after) :
    r.Moves w.store.stations w.store.tally after.2.store.tally after.1 := by
  cases r with
  | record c =>
    cases c with
    | create station => exact added_create hrun
    | update station => exact rewritten_update hrows hnumbered hrun
    | updateStatus id status => exact rewritten_updateStatus hrows hnumbered hrun
    | delete id => exact rewritten_delete hrows hnumbered hrun
    | find id =>
      have hstore : after.2.store = w.store := by
        subst hrun
        show ((find id).run _ w).2.store = w.store
        rcases find_cases id with heq | heq <;> rw [heq]
        · rfl
        · have hreads : (StoreOp.findById id).kind.writes = false := rfl
          exact congrArg Prod.fst (probed_of_reads hreads now w)
      exact congrArg Store.tally hstore
  | listing c =>
    have hstore : after.2.store = w.store := by
      subst hrun
      show (c.program.run _ w).2.store = w.store
      rw [c.run_program_snd]
      exact congrArg Prod.fst (probed_of_reads c.writes_operation now w)
    exact congrArg Store.tally hstore

end

theorem Turn.kept_play {s : Store} (h : s.Rows StationRow.Kept) (t : Turn) :
    (t.play s).2.store.Rows StationRow.Kept := by
  refine Program.run_preserves (P := fun w : Probe Store => w.store.Rows StationRow.Kept) _ _
    (fun a _ w hw => ?_) h
  exact Probe.handle_cases a.1 (P := fun _ (s : Store) => s.Rows StationRow.Kept) (fun _ => hw)
    (Store.rows_handle (fun s id => StationRow.kept_ofStation id t.now s) hw a.1)

/-- Whatever was done to a new store of either kind: the statistics have for each status the length
of the listing filtered by it, these add up to the total, which is the length of the listing, and
a snapshot that is loaded has the same ones. Written out they are the counts under the three tokens
and the total. Any further call, answered in whatever way while any operations fail, changes them
by the one record that it adds, moves or takes away. -/
theorem statistics_follow_register {start : Store} (hstart : start.IsNew) (ops : List StoreOp)
    (clock : Clock) :
    let s := (runCalls Store.handle clock ops start).2
    (∀ now,
      let all := (findAll.run (Store.handle now) s).1
      let counts := (statistics.run (Store.handle now) s).1
      (∀ status, counts.count status = (all.filter (·.status == status)).length ∧
        counts.count status = ((Filter.make "" (some status)).apply all).length) ∧
      (Status.all.map counts.count).sum = counts.total ∧ counts.total = all.length ∧
      counts = (Snapshot.loadAll.run (Store.handle now) s).1.tally ∧
      counts.entries = [("AVAILABLE", counts.count .available),
        ("CHARGING", counts.count .charging), ("OUT_OF_SERVICE", counts.count .outOfService),
        ("TOTAL", counts.total)]) ∧
    ∀ (t : Turn) (before after : Instant),
      let answered := t.play s
      t.request.Moves (findAll.run (Store.handle before) s).1
        (statistics.run (Store.handle before) s).1
        (statistics.run (Store.handle after) answered.2.store).1 answered.1 := by
  intro s
  have hkept : s.Rows StationRow.Kept := Store.kept_runCalls hstart ops clock
  have hnumbered : s.view.Numbered := Store.numbered_runCalls hstart clock ops
  refine ⟨fun now => ?_, fun t before after => ?_⟩
  · intro all counts
    have hall : all = listed s.stations := congrArg Prod.fst (findAll_run hkept now)
    -- all counts are taken from one listing, which the snapshot holds as well
    have hcounts : counts = .ofStations all := by
      rw [hall, Tally.ofStations_perm (listed_perm s.stations)]
      exact congrArg Prod.fst (statistics_run hkept now)
    have hloaded : (Snapshot.loadAll.run (Store.handle now) s).1 = ⟨all⟩ := by
      rw [loadAll_run hkept, hall]
    have hcount (status : Status) :
        counts.count status = (all.filter (·.status == status)).length := by
      rw [hcounts, Tally.count_ofStations, Tally.countOf_eq_length]
    have hblank : Text.blank "" = true := by decide
    refine ⟨fun status => ⟨hcount status, ?_⟩, ?_, ?_, ?_, rfl⟩
    · rw [hcount, Filter.apply_make_of_status hblank]
    · rw [hcounts]
      exact Tally.sum_countOf all
    · rw [hcounts]
      rfl
    · rw [hcounts, hloaded]
      rfl
  · intro answered
    have hmoves : t.request.Moves s.stations s.tally answered.2.store.tally answered.1 :=
      moves_run (w := ⟨s, t.failing, t.cause, []⟩) hkept hnumbered rfl
    rw [findAll_run hkept, statistics_run hkept, statistics_run (t.kept_play hkept)]
    exact hmoves.mono fun r => (listed_perm s.stations).mem_iff.mpr

theorem statistics_follow_a_change_of_status :
    let s := (runCalls Store.handle (fun n => .ofEpoch n 0)
      [.insert (.draft "b" none .available), .insert (.draft "a" (some "x") .available),
        .insert (.draft "c" none .outOfService), .delete 3] (.database .fresh)).2
    let t : Turn := ⟨.record (.updateStatus 2 .charging), .ofEpoch 9 0, [.insert], "disk"⟩
    let counts (s : Store) := (statistics.run (Store.handle (.ofEpoch 9 0)) s).1
    (t.play s).1 = .ok true ∧ (Status.all.map (counts s).count).sum = (counts s).total ∧
      (counts s).Rewritten (findAll.run (Store.handle (.ofEpoch 9 0)) s).1
        (counts (t.play s).2.store) 2 [.charging] (t.play s).1 := by
  intro s t counts
  obtain ⟨hcounts, hmoves⟩ := statistics_follow_register (.inr rfl)
    [.insert (.draft "b" none .available), .insert (.draft "a" (some "x") .available),
      .insert (.draft "c" none .outOfService), .delete 3] fun n => .ofEpoch n 0
  obtain ⟨-, hsum, -⟩ := hcounts (.ofEpoch 9 0)
  exact ⟨by decide +kernel, hsum, hmoves t (.ofEpoch 9 0) (.ofEpoch 9 0)⟩

end Registry

end ChargingRegister
