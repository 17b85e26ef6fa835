import ChargingRegister.Proofs.Registry.Directory
import ChargingRegister.Proofs.Registry.Pool

/-!
# Calls for different records are independent

A call that rewrites a record looks at its own number alone and leaves the others as they are. So
while calls for different numbers take turns, what is left of each of them answers as the whole call
would have at the start, and puts the same under its number. Serving the calls one after another is
one of the orders in which they can take turns.
-/
namespace ChargingRegister

namespace MemoryStore

/-- What is under a number, without the time of its last change. -/
def timelessAt (m : MemoryStore) (id : Int) : Option Station :=
  (m.lookup id).map Station.timeless

theorem isSome_timelessAt (m : MemoryStore) (id : Int) :
    (m.timelessAt id).isSome = (m.lookup id).isSome :=
  Option.isSome_map

/-- The records stand in the order of the numbers, each under its own. -/
def LaidOut (numbers : List Int) (m : MemoryStore) : Prop :=
  m.stations = numbers.filterMap m.lookup

theorem Numbered.laidOut {m : MemoryStore} (h : m.Numbered) : m.LaidOut m.numbers := by
  rw [LaidOut, numbers, List.filterMap_map]
  have hown : ∀ r ∈ m.stations, (m.lookup ∘ Station.id) r = some r := fun r hr => h.lookup_eq hr
  rw [List.filterMap_congr hown, List.filterMap_some]

section

variable {numbers : List Int} {m : MemoryStore} (h : m.LaidOut numbers)
include h

theorem LaidOut.update (now : Instant) (s : Station) :
    (handle now (.update s) m).2.LaidOut numbers := by
  show replace { s with lastUpdated := some now } m.stations = _
  rw [LaidOut] at h
  rw [h, replace, List.map_filterMap]
  apply List.filterMap_congr
  intro id _
  rw [lookup_update]
  cases hfound : m.lookup id with
  | none => simp
  | some r =>
    obtain rfl : r.id = id := id_of_lookup hfound
    exact (apply_ite some (r.id = s.id) _ r)

theorem LaidOut.delete (now : Instant) (id : Int) :
    (handle now (.delete id) m).2.LaidOut numbers := by
  show m.stations.filter (·.id != id) = _
  rw [LaidOut] at h
  rw [h, List.filter_filterMap]
  apply List.filterMap_congr
  intro id' _
  rw [lookup_delete]
  cases hfound : m.lookup id' with
  | none => simp
  | some r =>
    obtain rfl : r.id = id' := id_of_lookup hfound
    by_cases hid : r.id = id <;> simp [Option.filter, hid]

theorem LaidOut.timeless_stations :
    m.stations.map Station.timeless = numbers.filterMap m.timelessAt := by
  rw [LaidOut] at h
  rw [h, List.map_filterMap]
  rfl

end

end MemoryStore

namespace Registry

def RecordCall.rewritten? : RecordCall → Option Int
  | .update s => some s.id
  | .updateStatus id _ => some id
  | .delete id => some id
  | _ => none

/-- What a program answers at a store in memory, and what is under a number afterwards. -/
def outcome {α : Type} (now : Instant) (id : Int) (p : Program α) (m : MemoryStore) :
    α × Option Station :=
  let after := p.run (MemoryStore.handle now) m
  (after.1, after.2.timelessAt id)

section

variable (now : Instant) (m : MemoryStore)

theorem outcome_update (s : Station) :
    outcome now s.id (.perform (.update s)) m =
      (.ok (m.timelessAt s.id).isSome, (m.timelessAt s.id).map fun _ => s.timeless) := by
  show ((MemoryStore.handle now (.update s) m).1,
    ((MemoryStore.handle now (.update s) m).2.lookup s.id).map Station.timeless) = _
  rw [m.handle_update, m.lookup_update, if_pos rfl, Option.map_map, m.isSome_timelessAt,
    MemoryStore.timelessAt, Option.map_map]
  rfl

theorem outcome_delete (id : Int) :
    outcome now id (.perform (.delete id)) m = (.ok (m.timelessAt id).isSome, none) := by
  show ((MemoryStore.handle now (.delete id) m).1,
    ((MemoryStore.handle now (.delete id) m).2.lookup id).map Station.timeless) = _
  rw [m.handle_delete, m.lookup_delete, if_pos rfl, m.isSome_timelessAt]
  rfl

end

section

variable {m m' : MemoryStore} (now now' : Instant)

theorem outcome_update_congr {s s' : Station} (hs : s.timeless = s'.timeless)
    (h : m.timelessAt s.id = m'.timelessAt s.id) :
    outcome now s.id (Registry.update s) m = outcome now' s.id (Registry.update s') m' := by
  have hid : s'.id = s.id := (congrArg Station.id hs).symm
  have hname : s'.name = s.name := (congrArg Station.name hs).symm
  by_cases hpos : 0 < s.id
  · cases hblank : Text.blank s.name with
    | true =>
      rw [update_of_blank hpos hblank, update_of_blank (hid ▸ hpos) (hname ▸ hblank)]
      exact congrArg (Prod.mk _) h
    | false =>
      have hother := outcome_update now' m' s'
      rw [hid] at hother
      rw [update_of_named hpos hblank, update_of_named (hid ▸ hpos) (hname ▸ hblank),
        outcome_update, hother, h, hs]
  · have hnonpos : s.id ≤ 0 := Int.not_lt.mp hpos
    rw [update_of_nonpos hnonpos, update_of_nonpos (hid ▸ hnonpos), hid]
    exact congrArg (Prod.mk _) h

theorem outcome_writeBack_congr {id : Int} (status : Status)
    (h : m.timelessAt id = m'.timelessAt id) :
    outcome now id (writeBack id status (.ok (m.lookup id))) m =
      outcome now' id (writeBack id status (.ok (m'.lookup id))) m' := by
  cases hfound : m.lookup id with
  | none =>
    have hnone : m'.lookup id = none := by
      rw [← Option.isNone_iff_eq_none, ← Option.not_isSome, ← m'.isSome_timelessAt, ← h,
        m.isSome_timelessAt, hfound]
      rfl
    rw [hnone]
    exact congrArg (Prod.mk _) h
  | some r =>
    have hlive : (m'.lookup id).isSome = true := by
      rw [← m'.isSome_timelessAt, ← h, m.isSome_timelessAt, hfound]
      rfl
    obtain ⟨r', hfound'⟩ := Option.isSome_iff_exists.mp hlive
    have hsame : r.timeless = r'.timeless := by
      rw [MemoryStore.timelessAt, MemoryStore.timelessAt, hfound, hfound'] at h
      exact Option.some.inj h
    obtain rfl : r.id = id := MemoryStore.id_of_lookup hfound
    rw [hfound', writeBack_some, writeBack_some]
    have hwritten : Station.timeless { r with status } = Station.timeless { r' with status } :=
      congrArg (fun s : Station => { s with status }) hsame
    exact outcome_update_congr now now' hwritten h

namespace Pending

/-- What is left of a call comes out the same wherever the same is under its number, at whatever
instant. -/
theorem Proper.outcome_congr {p : Pending} (hp : p.Proper) {id : Int}
    (hid : p.call.rewritten? = some id) (h : m.timelessAt id = m'.timelessAt id) :
    outcome now id p.rest m = outcome now' id p.rest m' := by
  cases hp with
  | create | find => cases hid
  | answered c answer => exact congrArg (Prod.mk answer) h
  | update s =>
    obtain rfl := Option.some.inj hid
    rw [outcome_update, outcome_update, h]
  | read id' status =>
    obtain rfl := Option.some.inj hid
    exact outcome_writeBack_congr now now' status h
  | write status r =>
    obtain rfl := Option.some.inj hid
    have hwrite := outcome_update now m { r with status }
    have hwrite' := outcome_update now' m' { r with status }
    refine hwrite.trans (Eq.trans ?_ hwrite'.symm)
    show (_, (m.timelessAt r.id).map _) = (_, (m'.timelessAt r.id).map _)
    rw [h]
  | delete id' =>
    obtain rfl := Option.some.inj hid
    rw [outcome_delete, outcome_delete, h]

end Pending

end

namespace Pending

variable {p : Pending} (hp : p.Proper) {id : Int} (hid : p.call.rewritten? = some id)
include hp hid

/-- A store goes on with the call like the store in memory that it shows. -/
theorem Proper.step_view {s : Store} (hs : s.Rows StationRow.Legible) (now : Instant) :
    (p.rest.step (Store.handle now) s).1 = (p.rest.step (MemoryStore.handle now) s.view).1 ∧
      (p.rest.step (Store.handle now) s).2.view =
        (p.rest.step (MemoryStore.handle now) s.view).2 := by
  obtain ⟨c, rest⟩ := p
  cases rest with
  | done answer => exact ⟨rfl, rfl⟩
  | call op next =>
    have hkind : op.kind ∈ [.update, .delete, .findById] := by
      cases hp with
      | create | find => cases hid
      | update | write => exact List.mem_cons_self
      | delete => exact List.mem_cons_of_mem _ List.mem_cons_self
      | read => exact List.mem_cons_of_mem _ (List.mem_cons_of_mem _ List.mem_cons_self)
    obtain ⟨hreply, hview⟩ := Store.handle_view_of_legible hs hkind now
    exact ⟨congrArg next hreply, hview⟩

theorem Proper.outcome_step {s : Store} (hs : s.Rows StationRow.Legible) (t now now' : Instant) :
    outcome now id (p.rest.step (Store.handle t) s).1 (p.rest.step (Store.handle t) s).2.view =
      outcome now' id p.rest s.view := by
  obtain ⟨hrest, hview⟩ := hp.step_view hid hs t
  calc outcome now id (p.rest.step (Store.handle t) s).1 (p.rest.step (Store.handle t) s).2.view
    _ = outcome t id (p.rest.step (Store.handle t) s).1 (p.rest.step (Store.handle t) s).2.view :=
      (hp.step t s).outcome_congr now t hid rfl
    _ = outcome t id p.rest s.view := by
      rw [hrest, hview, outcome, outcome, Program.run_step]
    _ = outcome now' id p.rest s.view := hp.outcome_congr t now' hid rfl

section

variable (now : Instant) (m : MemoryStore)

theorem Proper.lookup_step_of_ne {id' : Int} (hne : id' ≠ id) :
    (p.step (MemoryStore.handle now) m).2.lookup id' = m.lookup id' := by
  cases hp with
  | create | find => cases hid
  | answered | read => rfl
  | update s =>
    obtain rfl := Option.some.inj hid
    exact (m.lookup_update now s id').trans (if_neg hne)
  | write status r =>
    obtain rfl := Option.some.inj hid
    exact (m.lookup_update now { r with status } id').trans (if_neg hne)
  | delete =>
    obtain rfl := Option.some.inj hid
    exact (m.lookup_delete now id' _).trans (if_neg hne)

theorem Proper.laidOut_step {numbers : List Int} (h : m.LaidOut numbers) :
    (p.step (MemoryStore.handle now) m).2.LaidOut numbers := by
  cases hp with
  | create | find => cases hid
  | answered | read => exact h
  | update s => exact h.update now s
  | write status r => exact h.update now { r with status }
  | delete id => exact h.delete now id

end

variable {s : Store} (hs : s.Rows StationRow.Legible) (now : Instant)
include hs

theorem Proper.timelessAt_step_of_ne {id' : Int} (hne : id' ≠ id) :
    (p.step (Store.handle now) s).2.view.timelessAt id' = s.view.timelessAt id' := by
  have hview : (p.step (Store.handle now) s).2.view = (p.step (MemoryStore.handle now) s.view).2 :=
    (hp.step_view hid hs now).2
  rw [hview, MemoryStore.timelessAt, hp.lookup_step_of_ne hid now s.view hne,
    MemoryStore.timelessAt]

theorem Proper.laidOut_view_step {numbers : List Int} (h : s.view.LaidOut numbers) :
    (p.step (Store.handle now) s).2.view.LaidOut numbers := by
  have hview : (p.step (Store.handle now) s).2.view = (p.step (MemoryStore.handle now) s.view).2 :=
    (hp.step_view hid hs now).2
  rw [hview]
  exact hp.laidOut_step hid now s.view h

end Pending

/-- The answer of a call that is over. -/
def Pending.answer? : Pending → Option ((c : RecordCall) × Result c.Value)
  | ⟨c, .done answer⟩ => some ⟨c, answer⟩
  | ⟨_, .call _ _⟩ => none

namespace Pool

theorem ne_of_nodup_middle {α β : Type} {f : α → β} {a b : α} {front back : List α}
    (h : ((front ++ a :: back).map f).Nodup) (hb : b ∈ front ++ back) : f b ≠ f a := by
  rw [List.map_append, List.map_cons, List.nodup_middle, ← List.map_append, List.nodup_cons] at h
  intro heq
  exact h.1 (heq ▸ List.mem_map_of_mem hb)

/-- The calls for different records that came to a store which showed `m` at first, under way. -/
structure Apart (calls : List RecordCall) (m : MemoryStore) (w : Pool Store) : Prop where
  same : w.calls.map Pending.call = calls
  proper : ∀ p ∈ w.calls, p.Proper
  legible : w.store.Rows StationRow.Legible
  outcome : ∀ p ∈ w.calls, ∀ id ∈ p.call.rewritten?, ∀ now now',
    outcome now id p.rest w.store.view = outcome now' id p.call.program m
  others : ∀ id, some id ∉ calls.map RecordCall.rewritten? →
    w.store.view.timelessAt id = m.timelessAt id
  laidOut : w.store.view.LaidOut m.numbers

theorem apart_start {s : Store} (hs : s.Rows StationRow.Legible) (hnumbered : s.view.Numbered)
    (calls : List RecordCall) : (start calls s).Apart calls s.view where
  same := by
    rw [start, List.map_map]
    exact List.map_id calls
  proper := by
    intro p hp
    obtain ⟨c, -, rfl⟩ := List.mem_map.mp hp
    exact Pending.proper_start c
  legible := hs
  outcome := by
    intro p hp id hid now now'
    obtain ⟨c, -, rfl⟩ := List.mem_map.mp hp
    exact (Pending.proper_start c).outcome_congr now now' hid rfl
  others := fun _ _ => rfl
  laidOut := hnumbered.laidOut

section

variable {calls : List RecordCall} (hrewrite : ∀ c ∈ calls, c.rewritten?.isSome = true)
  (hapart : (calls.map RecordCall.rewritten?).Nodup) {m : MemoryStore} {w : Pool Store}
include hrewrite hapart

theorem Apart.step (h : w.Apart calls m) (move : Move) :
    (w.step Store.handle move).Apart calls m := by
  have hproper := proper_step h.proper move
  rcases step_cases Store.handle w move with ⟨-, hstep⟩ | ⟨front, p, back, hcalls, -, hstep⟩
  · rwa [hstep]
  obtain ⟨pending, s⟩ := w
  obtain rfl : pending = front ++ p :: back := hcalls
  have hp : p.Proper := h.proper p List.mem_append_cons_self
  have hmem : p.call ∈ calls := h.same ▸ List.mem_map_of_mem List.mem_append_cons_self
  obtain ⟨id, hid⟩ := Option.isSome_iff_exists.mp (hrewrite p.call hmem)
  have hother : ∀ q ∈ front ++ back, q.call.rewritten? ≠ some id := by
    rw [← h.same, List.map_map] at hapart
    intro q hq
    rw [← hid]
    exact ne_of_nodup_middle (f := RecordCall.rewritten? ∘ Pending.call) hapart hq
  have hwhole : ∀ q ∈ front ++ back, q ∈ front ++ p :: back :=
    fun _ hq => ((List.Sublist.refl front).append (List.sublist_cons_self p back)).subset hq
  -- the store has changed for the neighbours, but not under their numbers
  have hneighbours : ∀ q ∈ front ++ back, ∀ id' ∈ q.call.rewritten?, ∀ now now',
      Registry.outcome now id' q.rest (p.step (Store.handle move.now) s).2.view =
        Registry.outcome now' id' q.call.program m := by
    intro q hq id' hid' now now'
    have hne : id' ≠ id := by
      rintro rfl
      exact hother q hq hid'
    have hkept := hp.timelessAt_step_of_ne hid h.legible move.now hne
    exact ((h.proper q (hwhole q hq)).outcome_congr now now hid' hkept).trans
      (h.outcome q (hwhole q hq) id' hid' now now')
  -- the call that went on comes out as before its step
  have hown : ∀ now now',
      Registry.outcome now id (p.step (Store.handle move.now) s).1.rest
          (p.step (Store.handle move.now) s).2.view =
        Registry.outcome now' id p.call.program m := by
    intro now now'
    exact (hp.outcome_step hid h.legible move.now now now').trans
      (h.outcome p List.mem_append_cons_self id hid now' now')
  rw [hstep] at hproper ⊢
  refine ⟨?_, hproper, p.legible_step h.legible move.now, ?_, ?_,
    hp.laidOut_view_step hid h.legible move.now h.laidOut⟩
  · rw [← h.same]
    simp only [List.map_append, List.map_cons]
    rfl
  · simp only [List.forall_mem_append, List.forall_mem_cons] at hneighbours ⊢
    refine ⟨hneighbours.1, fun id' hid' => ?_, hneighbours.2⟩
    obtain rfl : id = id' := Option.some.inj (hid.symm.trans hid')
    exact hown
  · intro id' hnot
    have hne : id' ≠ id := by
      rintro rfl
      exact hnot (hid ▸ List.mem_map_of_mem hmem)
    exact (hp.timelessAt_step_of_ne hid h.legible move.now hne).trans (h.others id' hnot)

theorem Apart.run (h : w.Apart calls m) (moves : List Move) :
    (w.run Store.handle moves).Apart calls m :=
  run_preserves Store.handle (fun _ move h' => h'.step hrewrite hapart move) h moves

end

/-- All calls have their answers. -/
def Ended {σ : Type} (w : Pool σ) : Prop :=
  ∀ p ∈ w.calls, p.next?.isNone = true

instance {σ : Type} (w : Pool σ) : Decidable w.Ended :=
  inferInstanceAs (Decidable (∀ p ∈ w.calls, p.next?.isNone = true))

def answers {σ : Type} (w : Pool σ) : List ((c : RecordCall) × Result c.Value) :=
  w.calls.filterMap Pending.answer?

section

variable {calls : List RecordCall} {m : MemoryStore} {w : Pool Store} (h : w.Apart calls m)
  (hended : w.Ended)
include h hended

theorem Apart.outcome_ended {p : Pending} (hp : p ∈ w.calls) {id : Int}
    (hid : p.call.rewritten? = some id) (now : Instant) :
    p.answer? = some ⟨p.call, (Registry.outcome now id p.call.program m).1⟩ ∧
      w.store.view.timelessAt id = (Registry.outcome now id p.call.program m).2 := by
  have houtcome := h.outcome p hp id hid now now
  have hnext := hended p hp
  obtain ⟨c, rest⟩ := p
  cases rest with
  | call op next => cases hnext
  | done answer =>
    rw [← houtcome]
    exact ⟨rfl, rfl⟩

/-- Each call has answered as it would have at the start. -/
theorem Apart.answers_eq (hrewrite : ∀ c ∈ calls, c.rewritten?.isSome = true) (now : Instant) :
    w.answers = calls.map fun c => ⟨c, (c.program.run (MemoryStore.handle now) m).1⟩ := by
  have hanswer : ∀ p ∈ w.calls, p.answer? =
      some ⟨p.call, (p.call.program.run (MemoryStore.handle now) m).1⟩ := by
    intro p hp
    have hmem : p.call ∈ calls := h.same ▸ List.mem_map_of_mem hp
    obtain ⟨id, hid⟩ := Option.isSome_iff_exists.mp (hrewrite p.call hmem)
    exact (h.outcome_ended hended hp hid now).1
  rw [answers, List.filterMap_congr hanswer, ← h.same, List.map_map]
  exact congrFun (List.filterMap_eq_map (f := fun p : Pending =>
    (⟨p.call, (p.call.program.run (MemoryStore.handle now) m).1⟩ :
      (c : RecordCall) × Result c.Value))) w.calls

/-- The calls have left the same behind, whatever order they came in. -/
theorem Apart.timelessAt_eq {calls' : List RecordCall} {w' : Pool Store}
    (h' : w'.Apart calls' m) (hended' : w'.Ended) (horder : calls'.Perm calls) (id : Int) :
    w.store.view.timelessAt id = w'.store.view.timelessAt id := by
  by_cases hid : some id ∈ calls.map RecordCall.rewritten?
  · obtain ⟨c, hc, hid⟩ := List.mem_map.mp hid
    obtain ⟨p, hp, rfl⟩ := List.mem_map.mp (h.same.symm ▸ hc)
    obtain ⟨p', hp', hcall⟩ := List.mem_map.mp (h'.same.symm ▸ horder.mem_iff.mpr hc)
    have now : Instant := .ofEpoch 0 0
    rw [(h.outcome_ended hended hp hid now).2, ← hcall,
      (h'.outcome_ended hended' hp' (hcall ▸ hid) now).2]
  · have hid' : some id ∉ calls'.map RecordCall.rewritten? :=
      fun hmem => hid ((horder.map _).mem_iff.mp hmem)
    rw [h.others id hid, h'.others id hid']

end

end Pool

def served {σ : Type} (answer : Instant → (c : RecordCall) → σ → Result c.Value × σ)
    (clock : Clock) : List RecordCall → σ → σ
  | [], s => s
  | c :: calls, s => served answer clock.tail calls (answer (clock 0) c s).2

section

variable {σ : Type} (handle : Handler σ)

def AtOnce {α : Type} (p : Program α) : Prop :=
  ∀ s, p.step handle s = (.done (p.run handle s).1, (p.run handle s).2)

theorem writeBack_atOnce (id : Int) (status : Status) (reply : StoreReply (.findById id)) :
    AtOnce handle (writeBack id status reply) := by
  intro s
  match reply with
  | .error e => rfl
  | .ok none => rfl
  | .ok (some r) =>
    rw [writeBack_some]
    rcases update_cases { r with status } with ⟨reason, h⟩ | ⟨-, h⟩ <;> rw [h] <;> rfl

/-- A call is over after its second move. -/
theorem RecordCall.step_step (c : RecordCall) (s : σ) :
    (c.program.step handle s).1.step handle (c.program.step handle s).2 =
      (.done (c.program.run handle s).1, (c.program.run handle s).2) := by
  refine c.program_cases (P := fun {_} p => (p.step handle s).1.step handle (p.step handle s).2 =
    (.done (p.run handle s).1, (p.run handle s).2)) ?refused ?absent ?performed ?rewritten
  case refused => exact fun operation reason => rfl
  case absent => rfl
  case performed => exact fun op _ _ => rfl
  case rewritten => exact fun id status _ => writeBack_atOnce handle id status _ _

end

namespace Pool

/-- Two moves for each of some calls that stand next to each other. -/
def turns : Clock → Nat → Nat → List Move
  | _, _, 0 => []
  | clock, first, n + 1 =>
    ⟨first, clock 0⟩ :: ⟨first, clock 0⟩ :: turns clock.tail (first + 1) n

theorem run_turns (clock : Clock) (front : List Pending) (order : List RecordCall) (s : Store) :
    run Store.handle ⟨front ++ order.map .start, s⟩ (turns clock front.length order.length) =
      ⟨front ++ (Registry.answers serve clock order s).map (fun a => ⟨a.1, .done a.2⟩),
        served serve clock order s⟩ := by
  induction order generalizing clock front s with
  | nil => rfl
  | cons c order ih =>
    let ended : Pending := ⟨c, .done (serve (clock 0) c s).1⟩
    let after := (Pending.start c).step (Store.handle (clock 0)) s
    have hended : after.1.step (Store.handle (clock 0)) after.2 =
        (ended, (serve (clock 0) c s).2) :=
      congrArg (fun w => (Pending.mk c w.1, w.2)) (c.step_step (Store.handle (clock 0)) s)
    have hfront : (front ++ [ended]).length = front.length + 1 := List.length_append
    have hrest := ih clock.tail (front ++ [ended]) (serve (clock 0) c s).2
    rw [hfront, List.append_assoc, List.append_assoc] at hrest
    rw [List.length_cons, turns, run, List.foldl_cons, List.foldl_cons, List.map_cons,
      step_middle Store.handle rfl, step_middle Store.handle rfl, hended]
    exact hrest

/-- Serving calls one after another is one of the orders in which they take turns. -/
theorem exists_inTurn (clock : Clock) (order : List RecordCall) (s : Store) :
    ∃ moves, ((start order s).run Store.handle moves).Ended ∧
      ((start order s).run Store.handle moves).answers = Registry.answers serve clock order s ∧
      ((start order s).run Store.handle moves).store = served serve clock order s := by
  have hrun : (start order s).run Store.handle (turns clock 0 order.length) =
      ⟨(Registry.answers serve clock order s).map (fun a => ⟨a.1, .done a.2⟩),
        served serve clock order s⟩ := run_turns clock [] order s
  refine ⟨turns clock 0 order.length, ?_, ?_, ?_⟩
  · rw [hrun]
    intro p hp
    obtain ⟨a, -, rfl⟩ := List.mem_map.mp hp
    rfl
  · rw [hrun, answers, List.filterMap_map]
    exact List.filterMap_some
  · rw [hrun]

end Pool

/-- Calls for different numbers, at a healthy store, whose moves come in any order until all calls
are over: every call answers, and the store holds in the end, what it would if the calls were served
one after another, in whatever order. -/
theorem independent_of_interleaving {s : Store} (hs : s.Healthy) (hnumbered : s.view.Numbered)
    {calls order : List RecordCall} (hrewrite : ∀ c ∈ calls, c.rewritten?.isSome = true)
    (hapart : (calls.map RecordCall.rewritten?).Nodup) (horder : order.Perm calls)
    {moves : List Move} (hended : ((Pool.start calls s).run Store.handle moves).Ended)
    (clock : Clock) :
    let w := (Pool.start calls s).run Store.handle moves
    w.answers.Perm (answers serve clock order s) ∧
      w.store.stations.map Station.timeless =
        (served serve clock order s).stations.map Station.timeless := by
  intro w
  -- the serial order is itself an interleaving, and both are compared with the start
  obtain ⟨moves', hended', hanswers, hserved⟩ := Pool.exists_inTurn clock order s
  have hrewrite' : ∀ c ∈ order, c.rewritten?.isSome = true :=
    fun c hc => hrewrite c (horder.mem_iff.mp hc)
  have hapart' : (order.map RecordCall.rewritten?).Nodup :=
    (horder.map RecordCall.rewritten?).nodup_iff.mpr hapart
  have hw : w.Apart calls s.view :=
    (Pool.apart_start hs.legible hnumbered calls).run hrewrite hapart moves
  have hw' := (Pool.apart_start hs.legible hnumbered order).run hrewrite' hapart' moves'
  constructor
  · rw [← hanswers, hw.answers_eq hended hrewrite (clock 0),
      hw'.answers_eq hended' hrewrite' (clock 0)]
    exact (horder.map _).symm
  · have hsame : ∀ id, w.store.view.timelessAt id =
        (served serve clock order s).view.timelessAt id := by
      intro id
      rw [← hserved]
      exact hw.timelessAt_eq hended hw' hended' horder id
    have hlaid := hw'.laidOut
    rw [hserved] at hlaid
    rw [Store.stations_eq_view, Store.stations_eq_view, hw.laidOut.timeless_stations,
      hlaid.timeless_stations, funext hsame]

theorem independent_of_interleaving_around_a_write :
    let now : Instant := .ofEpoch 0 0
    let row (id : Int) (name : String) : StationRow :=
      .ofStation id now (.draft name none .available)
    let s : Store := .database ⟨some ⟨[row 1 "a", row 2 "b", row 4 "c"], 4⟩, some .empty⟩
    let calls : List RecordCall := [.updateStatus 1 .charging, .delete 2, .delete 3,
      .update ⟨4, "d", none, .available, none⟩]
    let w := (Pool.start calls s).run Store.handle
      [⟨0, now⟩, ⟨1, now⟩, ⟨3, now⟩, ⟨0, now⟩, ⟨2, now⟩]
    w.answers.Perm (answers serve (fun _ => now) calls.reverse s) ∧
      w.store.stations.map Station.timeless =
        (served serve (fun _ => now) calls.reverse s).stations.map Station.timeless := by
  intro now row s calls w
  have hrows : s.Rows StationRow.Legible := by
    refine ⟨_, _, rfl, ?_⟩
    simp only [List.forall_mem_cons]
    exact ⟨⟨now, rfl⟩, ⟨now, rfl⟩, ⟨now, rfl⟩, nofun⟩
  have hhealthy : s.Healthy := ⟨hrows, by decide⟩
  have hnumbered : s.view.Numbered := ⟨by decide, by decide⟩
  have hended : w.Ended := by decide +kernel
  exact independent_of_interleaving hhealthy hnumbered (by decide) (by decide)
    calls.reverse_perm hended (fun _ => now)

end Registry

end ChargingRegister
