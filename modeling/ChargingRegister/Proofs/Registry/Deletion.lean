import ChargingRegister.Proofs.Registry.Pool

/-!
# Deleted records stay deleted

A pool accounts for the numbers in use: each of them was there at the start or was received by one
creation, and left with one deletion. A creation takes the next number and a deletion one in use,
so the account stays right whichever call goes on. What a change of status read before a deletion
it can no longer write after it, because a write never brings a number back into use.
-/
namespace ChargingRegister

def StoreOp.rewritten? : StoreOp → Option Int
  | .update s => some s.id
  | .delete id => some id
  | _ => none

namespace Registry

namespace Pending

def created? : Pending → Option Int
  | ⟨.create _, .done (.ok s)⟩ => some s.id
  | _ => none

def removed? : Pending → Option Int
  | ⟨.delete id, .done (.ok true)⟩ => some id
  | _ => none

/-- Whether a call that is over has met the record that it was to change or to remove. -/
def met? : Pending → Option Bool
  | ⟨.update _, .done (.ok met)⟩ => some met
  | ⟨.updateStatus _ _, .done (.ok met)⟩ => some met
  | ⟨.delete _, .done (.ok met)⟩ => some met
  | _ => none

/-- The number of the record that the call replaces or removes next. -/
def rewrites? (p : Pending) : Option Int :=
  p.next?.bind StoreOp.rewritten?

/-- What one call of the store does to the numbers in use, and what is told of it afterwards. -/
inductive Effect (before after : MemoryStore) (p p' : Pending) : Prop
  | kept (numbers : after.numbers = before.numbers)
    (next : after.nextStation = before.nextStation)
    (created : p'.created? = p.created?) (removed : p'.removed? = p.removed?)
  | added (numbers : after.numbers = before.numbers ++ [before.nextStation])
    (next : after.nextStation = before.nextStation + 1) (uncreated : p.created? = none)
    (created : p'.created? = some before.nextStation) (removed : p'.removed? = p.removed?)
  | taken (id : Int) (live : id ∈ before.numbers)
    (numbers : after.numbers = before.numbers.filter (· != id))
    (next : after.nextStation = before.nextStation) (created : p'.created? = p.created?)
    (unremoved : p.removed? = none) (removed : p'.removed? = some id)

section

variable {s : Store} (hs : s.Rows StationRow.Legible) (now : Instant)
include hs

theorem effect_update (station : Station) {p p' : Pending} (hcreated : p'.created? = p.created?)
    (hremoved : p'.removed? = p.removed?) :
    Effect s.view (Store.handle now (.update station) s).2.view p p' := by
  obtain ⟨-, hview⟩ := Store.handle_view_of_legible hs
    (show (StoreOp.update station).kind ∈ _ from List.mem_cons_self) now
  rw [hview]
  exact .kept (s.view.numbers_update now station) rfl hcreated hremoved

theorem effect_delete (id : Int) :
    Effect s.view (Store.handle now (.delete id) s).2.view ⟨.delete id, .perform (.delete id)⟩
      ⟨.delete id, .done (Store.handle now (.delete id) s).1⟩ := by
  obtain ⟨hreply, hview⟩ := Store.handle_view_of_legible hs
    (show (StoreOp.delete id).kind ∈ _ from List.mem_cons_of_mem _ List.mem_cons_self) now
  rw [hreply, hview, MemoryStore.handle_delete]
  cases hlive : (s.view.lookup id).isSome with
  | true =>
    exact .taken id ((s.view.lookup_isSome_iff id).mp hlive) (s.view.numbers_delete now id) rfl
      rfl rfl rfl
  | false =>
    have hnot : id ∉ s.view.numbers := by
      rw [← s.view.lookup_isSome_iff id, hlive]
      exact Bool.false_ne_true
    refine .kept ?_ rfl rfl rfl
    rw [s.view.numbers_delete now id, List.filter_eq_self]
    intro id' hid'
    simpa using fun heq : id' = id => hnot (heq ▸ hid')

theorem Proper.effect {p : Pending} (hp : p.Proper) :
    Effect s.view (p.step (Store.handle now) s).2.view p (p.step (Store.handle now) s).1 := by
  cases hp with
  | answered c answer => exact .kept rfl rfl rfl rfl
  | create station =>
    show Effect s.view (Store.handle now (.insert station) s).2.view _
      ⟨.create station, .done (Store.handle now (.insert station) s).1⟩
    rcases Store.handle_insert_cases now station s with ⟨e, h⟩ | ⟨r, hreply, hid, hview⟩
    · rw [h]
      exact .kept rfl rfl rfl rfl
    · rw [hreply, hview]
      exact .added (s.view.numbers_insert now station) rfl rfl (congrArg some hid) rfl
  | update station => exact effect_update hs now station rfl rfl
  | write status r => exact effect_update hs now { r with status } rfl rfl
  | delete id => exact effect_delete hs now id
  | read id status | find id =>
    have hstore : (Store.handle now (.findById id) s).2 = s := Store.handle_of_reads rfl now s
    show Effect s.view (Store.handle now (.findById id) s).2.view _ _
    rw [hstore]
    exact .kept rfl rfl rfl rfl

theorem Proper.met_of_missing {p : Pending} (hp : p.Proper) {op : StoreOp}
    (hnext : p.next? = some op) {id : Int} (hop : op.rewritten? = some id)
    (hmissing : id ∉ s.view.numbers) :
    (p.step (Store.handle now) s).1.met? = some false := by
  have hlookup : (s.view.lookup id).isSome = false := by
    rw [← Bool.not_eq_true, s.view.lookup_isSome_iff]
    exact hmissing
  have hreply : op.kind ∈ [.update, .delete, .findById] →
      (Store.handle now op s).1 = (MemoryStore.handle now op s.view).1 :=
    fun hkind => (Store.handle_view_of_legible hs hkind now).1
  cases hp with
  | answered => cases hnext
  | create | read | find =>
    cases hnext
    cases hop
  | update station =>
    cases hnext
    cases hop
    show (Pending.mk (.update station) (.done (Store.handle now (.update station) s).1)).met? = _
    rw [hreply List.mem_cons_self, MemoryStore.handle_update, hlookup]
    rfl
  | write status r =>
    cases hnext
    cases hop
    show (Pending.mk (.updateStatus r.id status)
      (.done (Store.handle now (.update { r with status }) s).1)).met? = _
    rw [hreply List.mem_cons_self, MemoryStore.handle_update, hlookup]
    rfl
  | delete =>
    cases hnext
    cases hop
    show (Pending.mk (.delete id) (.done (Store.handle now (.delete id) s).1)).met? = _
    rw [hreply (List.mem_cons_of_mem _ List.mem_cons_self), MemoryStore.handle_delete, hlookup]
    rfl

end

theorem created?_start (c : RecordCall) : (start c).created? = none := by
  cases c with
  | create s =>
    rcases create_cases s with ⟨reason, h⟩ | ⟨-, h⟩ <;> rw [start, RecordCall.program, h] <;> rfl
  | _ => rfl

theorem removed?_start (c : RecordCall) : (start c).removed? = none := by
  cases c with
  | delete id =>
    rcases delete_cases id with ⟨reason, h⟩ | h <;> rw [start, RecordCall.program, h] <;> rfl
  | _ => rfl

theorem step_of_removed? {σ : Type} {p : Pending} {id : Int} (h : p.removed? = some id)
    (handle : Handler σ) (s : σ) : p.step handle s = (p, s) := by
  match p, h with
  | ⟨.delete _, .done (.ok true)⟩, _ => rfl

end Pending

theorem filterMap_middle {α β : Type} {f : α → Option β} {a a' : α} (h : f a' = f a)
    (front back : List α) :
    (front ++ a' :: back).filterMap f = (front ++ a :: back).filterMap f := by
  simp only [List.filterMap_append, List.filterMap_cons, h]

theorem filterMap_middle_perm {α β : Type} {f : α → Option β} {a a' : α} {b : β}
    (h : f a = none) (h' : f a' = some b) (front back : List α) :
    ((front ++ a' :: back).filterMap f).Perm (b :: (front ++ a :: back).filterMap f) := by
  simp only [List.filterMap_append, List.filterMap_cons, h, h']
  exact List.perm_middle

theorem filterMap_middle_subset {α β : Type} {f : α → Option β} {a : α} (h : f a = none) (a' : α)
    (front back : List α) :
    (front ++ a :: back).filterMap f ⊆ (front ++ a' :: back).filterMap f := by
  intro b hb
  obtain ⟨x, hx, hf⟩ := List.mem_filterMap.mp hb
  refine List.mem_filterMap.mpr ⟨x, ?_, hf⟩
  rw [List.mem_append, List.mem_cons] at hx ⊢
  rcases hx with hx | rfl | hx
  · exact .inl hx
  · rw [h] at hf
    cases hf
  · exact .inr (.inr hx)

theorem length_filter_ne {numbers : List Int} (h : numbers.Nodup) {id : Int} (hid : id ∈ numbers) :
    (numbers.filter (· != id)).length + 1 = numbers.length := by
  have herase := h.erase_eq_filter id
  have hpos := List.length_pos_of_mem hid
  rw [← herase, List.length_erase_of_mem hid]
  omega

/-- What is told of creations and deletions agrees with the numbers in use and with the next one. -/
structure Balanced (initial : Nat) (numbers : List Int) (next : Int) (created removed : List Int) :
    Prop where
  createdOnce : created.Nodup
  given : ∀ id ∈ created, id < next
  removedOnce : removed.Nodup
  spent : ∀ id ∈ removed, id < next
  gone : ∀ id ∈ removed, id ∉ numbers
  count : numbers.length + removed.length = initial + created.length

namespace Balanced

variable {initial : Nat} {numbers created removed : List Int} {next : Int}
  (h : Balanced initial numbers next created removed)
include h

/-- The next number is received for the first time, and was not removed before. -/
theorem add {created' : List Int} (hcreated : created'.Perm (next :: created)) :
    Balanced initial (numbers ++ [next]) (next + 1) created' removed where
  createdOnce := by
    have hfresh : next ∉ created := fun hmem => (h.given next hmem).ne rfl
    exact hcreated.nodup_iff.mpr (h.createdOnce.cons hfresh)
  given := by
    intro id hid
    rcases List.mem_cons.mp (hcreated.mem_iff.mp hid) with rfl | hid
    · omega
    · have hgiven := h.given id hid
      omega
  removedOnce := h.removedOnce
  spent := by
    intro id hid
    have hspent := h.spent id hid
    omega
  gone := by
    intro id hid hmem
    rcases List.mem_append.mp hmem with hmem | hmem
    · exact h.gone id hid hmem
    · exact (h.spent id hid).ne (List.mem_singleton.mp hmem)
  count := by
    have hcount := h.count
    have hone := hcreated.length_eq
    rw [List.length_append, List.length_singleton, hone, List.length_cons]
    omega

theorem take (hdistinct : numbers.Nodup) {id : Int} (hlive : id ∈ numbers) (hlt : id < next)
    {removed' : List Int} (hremoved : removed'.Perm (id :: removed)) :
    Balanced initial (numbers.filter (· != id)) next created removed' where
  createdOnce := h.createdOnce
  given := h.given
  removedOnce := by
    have hfresh : id ∉ removed := fun hmem => h.gone id hmem hlive
    exact hremoved.nodup_iff.mpr (h.removedOnce.cons hfresh)
  spent := by
    intro id' hid'
    rcases List.mem_cons.mp (hremoved.mem_iff.mp hid') with rfl | hid'
    · exact hlt
    · exact h.spent id' hid'
  gone := by
    intro id' hid' hmem
    obtain ⟨hmem, hne⟩ := List.mem_filter.mp hmem
    rcases List.mem_cons.mp (hremoved.mem_iff.mp hid') with rfl | hid'
    · exact absurd rfl (bne_iff_ne.mp hne)
    · exact h.gone id' hid' hmem
  count := by
    have hcount := h.count
    have hone := hremoved.length_eq
    have hleft := length_filter_ne hdistinct hlive
    rw [hone, List.length_cons]
    omega

end Balanced

namespace Pool

variable {σ : Type}

def created (w : Pool σ) : List Int :=
  w.calls.filterMap Pending.created?

/-- The numbers that the deletions have taken out of use. -/
def removed (w : Pool σ) : List Int :=
  w.calls.filterMap Pending.removed?

theorem created_start (calls : List RecordCall) (s : σ) : (start calls s).created = [] := by
  rw [created, List.filterMap_eq_nil_iff]
  intro p hp
  obtain ⟨c, -, rfl⟩ := List.mem_map.mp hp
  exact Pending.created?_start c

theorem removed_start (calls : List RecordCall) (s : σ) : (start calls s).removed = [] := by
  rw [removed, List.filterMap_eq_nil_iff]
  intro p hp
  obtain ⟨c, -, rfl⟩ := List.mem_map.mp hp
  exact Pending.removed?_start c

/-- The calls at a store that are as they can be, with a balanced account of its numbers. -/
structure Accounted (initial : Nat) (w : Pool Store) : Prop where
  proper : ∀ p ∈ w.calls, p.Proper
  legible : w.store.Rows StationRow.Legible
  numbered : w.store.view.Numbered
  balanced : Balanced initial w.store.view.numbers w.store.view.nextStation w.created w.removed

theorem accounted_start {s : Store} (hs : s.Rows StationRow.Legible) (hnumbered : s.view.Numbered)
    (calls : List RecordCall) : (start calls s).Accounted s.view.numbers.length where
  proper := by
    intro p hp
    obtain ⟨c, -, rfl⟩ := List.mem_map.mp hp
    exact Pending.proper_start c
  legible := hs
  numbered := hnumbered
  balanced := by
    rw [created_start, removed_start]
    exact ⟨.nil, by simp, .nil, by simp, by simp, rfl⟩

/-- Whichever call goes on, the account stays balanced. -/
theorem Accounted.step {initial : Nat} {w : Pool Store} (h : w.Accounted initial) (m : Move) :
    (w.step Store.handle m).Accounted initial := by
  have hproper := proper_step h.proper m
  rcases step_cases Store.handle w m with ⟨-, hstep⟩ | ⟨front, p, back, hcalls, -, hstep⟩
  · rwa [hstep]
  obtain ⟨calls, s⟩ := w
  obtain rfl : calls = front ++ p :: back := hcalls
  have hp : p.Proper := h.proper p List.mem_append_cons_self
  have hnumbered : (p.step (Store.handle m.now) s).2.view.Numbered :=
    Pending.step_preserves (P := fun s : Store => s.view.Numbered)
      (fun op _ hn => Store.numbered_view_handle hn m.now op) p h.numbered
  have hbalanced := h.balanced
  rw [hstep] at hproper ⊢
  refine ⟨hproper, p.legible_step h.legible m.now, hnumbered, ?_⟩
  rw [created, removed] at hbalanced ⊢
  -- the neighbours are told nothing new, so the account moves by this one effect
  cases hp.effect h.legible m.now with
  | kept numbers next hcreated hremoved =>
    rw [numbers, next, filterMap_middle hcreated, filterMap_middle hremoved]
    exact hbalanced
  | added numbers next uncreated hcreated hremoved =>
    rw [numbers, next, filterMap_middle hremoved]
    exact hbalanced.add (filterMap_middle_perm uncreated hcreated front back)
  | taken id live numbers next hcreated unremoved hremoved =>
    rw [numbers, next, filterMap_middle hcreated]
    exact hbalanced.take h.numbered.distinct live (h.numbered.spent id live)
      (filterMap_middle_perm unremoved hremoved front back)

theorem removed_subset_step (handle : Instant → Handler σ) (w : Pool σ) (m : Move) :
    w.removed ⊆ (w.step handle m).removed := by
  rcases step_cases handle w m with ⟨-, hstep⟩ | ⟨front, p, back, hcalls, -, hstep⟩
  · rw [hstep]
    exact List.Subset.refl _
  · rw [hstep, removed, removed, hcalls]
    cases hp : p.removed? with
    | none => exact filterMap_middle_subset hp _ front back
    | some id =>
      -- a deletion that has its answer makes no more calls
      have hsame : (p.step (handle m.now) w.store).1.removed? = p.removed? := by
        rw [Pending.step_of_removed? hp]
      rw [filterMap_middle hsame]
      exact List.Subset.refl _

theorem Accounted.run {initial : Nat} {w : Pool Store} (h : w.Accounted initial)
    (moves : List Move) : (w.run Store.handle moves).Accounted initial :=
  run_preserves Store.handle (fun _ m h => h.step m) h moves

theorem removed_subset_run (handle : Instant → Handler σ) (w : Pool σ) (moves : List Move) :
    w.removed ⊆ (w.run handle moves).removed :=
  run_preserves (P := fun w' => w.removed ⊆ w'.removed) handle
    (fun w' m h => List.Subset.trans h (removed_subset_step handle w' m)) (List.Subset.refl _) moves

theorem getElem?_step {handle : Instant → Handler σ} {w : Pool σ} {m : Move} {p : Pending}
    (h : w.calls[m.index]? = some p) :
    (w.step handle m).calls[m.index]? = some (p.step (handle m.now) w.store).1 := by
  obtain ⟨hlt, -⟩ := List.getElem?_eq_some_iff.mp h
  rw [step, h]
  exact List.getElem?_set_self hlt

end Pool

/-- Calls take turns at a healthy store, in any order and at any instants. No two creations receive
one number and no two deletions remove one; the store holds what it held at first and what was
created, less what was removed. What is removed once is in no later state: a write that comes after
the removal, even of a record that was read before it, meets none. -/
theorem deleted_stays_deleted {s : Store} (hs : s.Healthy) (hnumbered : s.view.Numbered)
    (calls : List RecordCall) (before later : List Move) :
    let w := (Pool.start calls s).run Store.handle before
    let w' := w.run Store.handle later
    w.created.Nodup ∧ w.removed.Nodup ∧
      w.store.stations.length + w.removed.length = s.stations.length + w.created.length ∧
      ∀ id ∈ w.removed, (∀ r ∈ w'.store.stations, r.id ≠ id) ∧
        ∀ m, (w'.calls[m.index]?).bind Pending.rewrites? = some id →
          ((w'.step Store.handle m).calls[m.index]?).bind Pending.met? = some false := by
  intro w w'
  have hw : w.Accounted s.view.numbers.length :=
    (Pool.accounted_start hs.legible hnumbered calls).run before
  have hw' : w'.Accounted s.view.numbers.length := hw.run later
  have hlength : ∀ s' : Store, s'.stations.length = s'.view.numbers.length := by
    intro s'
    rw [s'.stations_eq_view, MemoryStore.numbers, List.length_map]
  refine ⟨hw.balanced.createdOnce, hw.balanced.removedOnce, ?_, fun id hid => ?_⟩
  · rw [hlength, hlength]
    exact hw.balanced.count
  · have hgone : id ∉ w'.store.view.numbers :=
      hw'.balanced.gone id (Pool.removed_subset_run Store.handle w later hid)
    constructor
    · rintro r hr rfl
      rw [w'.store.stations_eq_view] at hr
      exact hgone (List.mem_map_of_mem hr)
    -- a record that was read earlier may be written now, under a number that is gone
    · intro m hwrites
      obtain ⟨p, hcall, hp⟩ := Option.bind_eq_some_iff.mp hwrites
      obtain ⟨op, hnext, hop⟩ := Option.bind_eq_some_iff.mp hp
      have hproper : p.Proper := hw'.proper p (List.mem_of_getElem? hcall)
      rw [Pool.getElem?_step hcall]
      exact hproper.met_of_missing hw'.legible m.now hnext hop hgone

/-- Between the read and the write of a change of status its record is removed. -/
theorem deleted_stays_deleted_before_a_write :
    let now : Instant := .ofEpoch 0 0
    let s : Store :=
      .database ⟨some ⟨[.ofStation 1 now (.draft "a" none .available)], 1⟩, some .empty⟩
    let calls : List RecordCall :=
      [.updateStatus 1 .charging, .delete 1, .create (.draft "b" none .available)]
    let w := (Pool.start calls s).run Store.handle [⟨0, now⟩, ⟨1, now⟩]
    let w' := w.run Store.handle [⟨2, now⟩]
    w.removed = [1] ∧ w'.created = [2] ∧ (∀ r ∈ w'.store.stations, r.id ≠ 1) ∧
      ((w'.step Store.handle ⟨0, now⟩).calls[0]?).bind Pending.met? = some false := by
  intro now s calls w w'
  have hrows : s.Rows StationRow.Legible :=
    ⟨_, _, rfl, List.forall_mem_singleton.mpr (StationRow.legible_ofStation 1 now _)⟩
  have hhealthy : s.Healthy := ⟨hrows, by decide⟩
  have hnumbered : s.view.Numbered := ⟨List.nodup_singleton 1, by decide⟩
  have hremoved : w.removed = [1] := by decide +kernel
  have hcreated : w'.created = [2] := by decide +kernel
  have hwrites : (w'.calls[0]?).bind Pending.rewrites? = some 1 := by decide +kernel
  have hlive : 1 ∈ w.removed := hremoved ▸ List.mem_singleton_self 1
  obtain ⟨-, -, -, hgone⟩ := deleted_stays_deleted hhealthy hnumbered calls
    [⟨0, now⟩, ⟨1, now⟩] [⟨2, now⟩]
  obtain ⟨hmissing, hwrite⟩ := hgone 1 hlive
  exact ⟨hremoved, hcreated, hmissing, hwrite ⟨0, now⟩ hwrites⟩

end Registry

end ChargingRegister
