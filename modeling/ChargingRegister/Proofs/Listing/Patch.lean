import ChargingRegister.Proofs.Listing.Completeness
import ChargingRegister.Proofs.Registry.Directory
import ChargingRegister.Proofs.Store.Numbers

/-!
# A patched snapshot is a reloaded one

A change of status moves no station in the order of listings, and takes none into a search or out of
it. So a snapshot in which every accepted change is noted holds what it would if it were loaded
anew, but for the times of the stations that were noted.
-/
namespace ChargingRegister

namespace Store

/-- A search for the text lists the station; a database finds nothing by a text that does not
fit. -/
def selects (text : String) (s : Store) (r : Station) : Bool :=
  (!s.isDatabase || decide (Database.Fits text)) && s.finds text r

theorem selects_of_fits {text : String} {s : Store}
    (h : s.isDatabase = true → Database.Fits text) : s.selects text = s.finds text := by
  funext r
  rw [selects]
  cases hkind : s.isDatabase with
  | false => rfl
  | true => rw [decide_eq_true (h hkind), Bool.or_true, Bool.true_and]

theorem orNone_search {s : Store} (h : s.Rows StationRow.Kept) (text : String) (now : Instant) :
    Registry.orNone (handle now (.search text) s).1 =
      listed (s.stations.filter (s.selects text)) := by
  by_cases hfits : s.isDatabase = true → Database.Fits text
  · rw [handle_search_finds h hfits, selects_of_fits hfits]
    rfl
  · rw [Classical.not_imp] at hfits
    obtain ⟨hkind, hlong⟩ := hfits
    have hnone : s.stations.filter (s.selects text) = [] := by
      rw [List.filter_eq_nil_iff]
      intro r _
      rw [selects, hkind, decide_eq_false hlong]
      exact Bool.false_ne_true
    have hlisted : listed [] = [] := List.mergeSort_nil
    rw [hnone, hlisted]
    cases s with
    | memory m => cases hkind
    | database db =>
      obtain ⟨t, u, rfl, -⟩ := h
      show Registry.orNone (Database.searchRows text t.rows) = []
      cases t.rows with
      | nil =>
        -- without rows the database does not look at the pattern
        have hempty : Database.searchRows text [] = .ok (listed []) :=
          Database.listedRows_of_kept (.search text)
            (show ∀ r ∈ ([] : List StationRow), r.Kept from nofun)
        rw [hempty, hlisted]
        rfl
      | cons row rows =>
        have hsize : decide (Like.maxPatternBytes <
            (String.ofList (Database.searchPattern text)).utf8ByteSize) = true :=
          decide_eq_true (Nat.lt_of_not_le hlong)
        rw [Database.searchRows, hsize]
        rfl

theorem selects_congr {s s' : Store} (hkind : s.isDatabase = s'.isDatabase) {r r' : Station}
    (htexts : r.texts = r'.texts) (text : String) : s.selects text r = s'.selects text r' := by
  have htest : s.test text = s'.test text := by
    cases s <;> cases s' <;> first | rfl | cases hkind
  rw [selects, selects, finds, finds, hkind, htexts, htest]

end Store

/-- The record changed, if it has the number. -/
def Station.changedAt (id : Int) (change : Station → Station) (r : Station) : Station :=
  if r.id = id then change r else r

theorem Station.apply_changedAt {β : Type} {f : Station → β} {change : Station → Station}
    (h : ∀ r, f (change r) = f r) (id : Int) (r : Station) : f (r.changedAt id change) = f r := by
  rw [changedAt]
  split
  case isTrue => exact h r
  case isFalse => rfl

namespace Snapshot

/-- What a snapshot is loaded with. -/
inductive Load where
  | all
  | search (text : String)

namespace Load

def program : Load → Program Snapshot
  | .all => loadAll
  | .search text => loadSearch text

/-- A load from the store lists the station. -/
def lists (s : Store) : Load → Station → Bool
  | .all, _ => true
  | .search text, r => Text.blank text || s.selects (Text.trim text) r

theorem lists_congr {s s' : Store} (hkind : s.isDatabase = s'.isDatabase) {r r' : Station}
    (htexts : r.texts = r'.texts) (l : Load) : l.lists s r = l.lists s' r' := by
  cases l with
  | all => rfl
  | search text => rw [lists, lists, Store.selects_congr hkind htexts]

theorem run_program {s : Store} (h : s.Rows StationRow.Kept) (l : Load) (now : Instant) :
    l.program.run (Store.handle now) s = (⟨listed (s.stations.filter (l.lists s))⟩, s) := by
  cases l with
  | all =>
    have hall : s.stations.filter (lists s .all) = s.stations := List.filter_true s.stations
    rw [program, loadAll, Program.run_bind, Registry.findAll_run h, hall]
    rfl
  | search text =>
    rw [program, loadSearch, Program.run_bind]
    cases hblank : Text.blank text with
    | true =>
      have hall : s.stations.filter (lists s (.search text)) = s.stations := by
        rw [List.filter_eq_self]
        intro r _
        rw [lists, hblank, Bool.true_or]
      rw [Registry.search_of_blank hblank, Registry.findAll_run h, hall]
      rfl
    | false =>
      have hsome : lists s (.search text) = s.selects (Text.trim text) := by
        funext r
        rw [lists, hblank, Bool.false_or]
      have hstore : (Store.handle now (.search (Text.trim text)) s).2 = s :=
        Store.handle_of_reads rfl now s
      rw [Registry.search_of_text hblank, Program.run_call, hstore, hsome]
      show (Snapshot.mk (Registry.orNone _), s) = _
      rw [Store.orNone_search h]

end Load

theorem changeFirst_cases (test : Station → Bool) (change : Station → Station)
    (stations : List Station) :
    stations.any test = false ∧ changeFirst test change stations = stations ∨
      stations.any test = true ∧ ∃ front r back, stations = front ++ r :: back ∧ test r = true ∧
        changeFirst test change stations = front ++ change r :: back := by
  induction stations with
  | nil => exact .inl ⟨rfl, rfl⟩
  | cons r rest ih =>
    rw [changeFirst, List.any_cons]
    cases hr : test r with
    | true => exact .inr ⟨rfl, [], r, rest, rfl, hr, rfl⟩
    | false =>
      rw [Bool.false_or, if_neg Bool.false_ne_true]
      rcases ih with ⟨hnone, hsame⟩ | ⟨hsome, front, r', back, hrest, hr', hchanged⟩
      · exact .inl ⟨hnone, by rw [hsame]⟩
      · exact .inr ⟨hsome, r :: front, r', back, by rw [hrest]; rfl, hr', by rw [hchanged]; rfl⟩

theorem noteStatus_cases (s : Snapshot) (id : Int) (status : Status) :
    s.contains id = false ∧ s.noteStatus id status = s ∨
      s.contains id = true ∧ ∃ front r back, s.stations = front ++ r :: back ∧ r.id = id ∧
        s.noteStatus id status = ⟨front ++ { r with status } :: back⟩ := by
  rcases changeFirst_cases (·.id == id) (fun r => { r with status }) s.stations with
    ⟨hnone, hsame⟩ | ⟨hsome, front, r, back, hstations, hr, hchanged⟩
  · exact .inl ⟨hnone, congrArg mk hsame⟩
  · exact .inr ⟨hsome, front, r, back, hstations, beq_iff_eq.mp hr, congrArg mk hchanged⟩

/-- Where the numbers are distinct, the change is noted wherever the number stands. -/
theorem stations_noteStatus {s : Snapshot} (h : (s.stations.map Station.id).Nodup) (id : Int)
    (status : Status) :
    (s.noteStatus id status).stations =
      s.stations.map (Station.changedAt id fun r => { r with status }) := by
  show changeFirst _ _ s.stations = _
  generalize s.stations = stations at h
  induction stations with
  | nil => rfl
  | cons r rest ih =>
    obtain ⟨hnot, hrest⟩ := List.nodup_cons.mp h
    rw [changeFirst, List.map_cons]
    by_cases hid : r.id = id
    · have hothers : rest.map (Station.changedAt id fun r => { r with status }) = rest := by
        refine (List.map_congr_left fun r' hr' => ?_).trans (List.map_id rest)
        have hne : r'.id ≠ id := fun heq => hnot (hid.trans heq.symm ▸ List.mem_map_of_mem hr')
        exact if_neg hne
      rw [if_pos (beq_iff_eq.mpr hid), Station.changedAt, if_pos hid, hothers]
    · rw [if_neg (fun heq => hid (beq_iff_eq.mp heq)), Station.changedAt, if_neg hid, ih hrest]

end Snapshot

/-- The record without the time of its last change, if its number is one of those. -/
def Station.undated (ids : List Int) (r : Station) : Station :=
  if r.id ∈ ids then r.timeless else r

namespace Station

theorem undated_of_mem {ids : List Int} {r : Station} (h : r.id ∈ ids) :
    r.undated ids = r.timeless :=
  if_pos h

theorem undated_of_notMem {ids : List Int} {r : Station} (h : r.id ∉ ids) : r.undated ids = r :=
  if_neg h

@[simp] theorem id_undated (ids : List Int) (r : Station) : (r.undated ids).id = r.id :=
  (apply_ite id _ _ _).trans (ite_self _)

@[simp] theorem timeless_undated (ids : List Int) (r : Station) :
    (r.undated ids).timeless = r.timeless :=
  (apply_ite timeless _ _ _).trans (ite_self _)

/-- What is dated among the noted records does not show when one more is noted. -/
theorem undated_cons {id : Int} {status : Status} {change : Station → Station}
    (hchange : ∀ r, (change r).timeless = ({ r with status } : Station).timeless) (ids : List Int)
    (r : Station) :
    (r.changedAt id change).undated (id :: ids) =
      (r.undated ids).changedAt id fun r => ({ r with status } : Station).timeless := by
  rw [changedAt, changedAt]
  by_cases hid : r.id = id
  · have hkept : (change r).id = id := (congrArg Station.id (hchange r)).trans hid
    have hundated : ({ r.undated ids with status } : Station).timeless =
        ({ r with status } : Station).timeless :=
      congrArg (fun r : Station => { r with status }) (timeless_undated ids r)
    have hid' : (r.undated ids).id = id := (id_undated ids r).trans hid
    rw [if_pos hid, if_pos hid', undated_of_mem (hkept ▸ List.mem_cons_self), hchange, hundated]
  · have hid' : (r.undated ids).id ≠ id := fun heq => hid ((id_undated ids r).symm.trans heq)
    rw [if_neg hid, if_neg hid']
    by_cases hmem : r.id ∈ ids
    · rw [undated_of_mem hmem, undated_of_mem (List.mem_cons_of_mem id hmem)]
    · have hnot : r.id ∉ id :: ids := fun h => (List.mem_cons.mp h).elim hid hmem
      rw [undated_of_notMem hmem, undated_of_notMem hnot]

end Station

/-- A store and a snapshot that was loaded from it, with the numbers of the changes noted since. -/
structure Mirror where
  store : Store
  snapshot : Snapshot
  noted : List Int

namespace Mirror

/-- Changes a status in the store and notes the change if it is accepted. -/
def change (now : Instant) (id : Int) (status : Status) (w : Mirror) : Mirror :=
  let after := Registry.serve now (.updateStatus id status) w.store
  match after.1 with
  | .ok true => ⟨after.2, w.snapshot.noteStatus id status, id :: w.noted⟩
  | _ => ⟨after.2, w.snapshot, w.noted⟩

def run (w : Mirror) (clock : Clock) : List (Int × Status) → Mirror
  | [] => w
  | c :: changes => run (w.change (clock 0) c.1 c.2) clock.tail changes

end Mirror

/-- A change of status is refused, or it rewrites the record that was read. -/
theorem Registry.run_updateStatus (m : MemoryStore) (now : Instant) (id : Int) (status : Status) :
    (∃ e, (updateStatus id status).run (MemoryStore.handle now) m = (.error e, m)) ∨
      ∃ r, m.lookup id = some r ∧ (updateStatus id status).run (MemoryStore.handle now) m =
        (.ok true, (MemoryStore.handle now (.update { r with status }) m).2) := by
  rcases updateStatus_cases id status with ⟨reason, h⟩ | ⟨-, h⟩
  · exact .inl ⟨_, by rw [h]; rfl⟩
  rw [h, Program.run_call, m.handle_findById]
  cases hfound : m.lookup id with
  | none => exact .inl ⟨_, rfl⟩
  | some r =>
    rw [writeBack_some]
    rcases update_cases { r with status } with ⟨reason, hupdate⟩ | ⟨-, hupdate⟩ <;> rw [hupdate]
    · exact .inl ⟨_, rfl⟩
    · have hid : r.id = id := MemoryStore.id_of_lookup hfound
      have hmet : (MemoryStore.handle now (.update { r with status }) m).1 = .ok true := by
        rw [m.handle_update]
        show Except.ok (m.lookup r.id).isSome = _
        rw [hid, hfound]
        rfl
      exact .inr ⟨r, rfl, Prod.ext hmet rfl⟩

/-- The record under the number has another status and time. -/
theorem MemoryStore.Numbered.stations_update {m : MemoryStore} (h : m.Numbered) {id : Int}
    {r : Station} (hr : m.lookup id = some r) (now : Instant) (status : Status) :
    (MemoryStore.handle now (.update { r with status }) m).2.stations = m.stations.map
      (Station.changedAt id fun r => { r with status, lastUpdated := some now }) := by
  obtain rfl : r.id = id := id_of_lookup hr
  apply List.map_congr_left
  intro r' hr'
  show (if r'.id = r.id then _ else r') = if r'.id = r.id then _ else r'
  split
  case isTrue heq =>
    have hsame : some r' = some r := by rw [← h.lookup_eq hr', heq, hr]
    rw [Option.some.inj hsame]
  case isFalse => rfl

namespace Mirror

open Snapshot

/-- The snapshot holds what a load from the store would show, but for the times of what was
noted. -/
structure Faithful (l : Load) (w : Mirror) : Prop where
  kept : w.store.Rows StationRow.Kept
  numbered : w.store.view.Numbered
  same : w.snapshot.stations.map (Station.undated w.noted) =
    (listed (w.store.stations.filter (l.lists w.store))).map (Station.undated w.noted)

theorem Faithful.distinct {l : Load} {w : Mirror} (h : w.Faithful l) :
    (w.snapshot.stations.map Station.id).Nodup := by
  have hid : Station.id ∘ Station.undated w.noted = Station.id := by
    funext r
    exact (apply_ite Station.id _ _ _).trans (ite_self _)
  have hids := congrArg (List.map Station.id) h.same
  rw [List.map_map, List.map_map, hid] at hids
  have hperm : (listed (w.store.stations.filter (l.lists w.store))).Perm
      (w.store.stations.filter (l.lists w.store)) := List.mergeSort_perm _ _
  rw [hids, (hperm.map Station.id).nodup_iff, w.store.stations_eq_view]
  exact h.numbered.distinct.sublist (List.filter_sublist.map Station.id)

/-- A load lists the changed stations where it listed them before the change. -/
theorem listed_changed {s s' : Store} (hkind : s'.isDatabase = s.isDatabase) {id : Int}
    {change : Station → Station} (hstations : s'.stations = s.stations.map (.changedAt id change))
    (htexts : ∀ r, (change r).texts = r.texts)
    (hkey : ∀ r, (change r).listingKey = r.listingKey) (l : Load) :
    listed (s'.stations.filter (l.lists s')) =
      (listed (s.stations.filter (l.lists s))).map (.changedAt id change) := by
  have hlists : l.lists s' ∘ Station.changedAt id change = l.lists s := by
    funext r
    exact l.lists_congr hkind (Station.apply_changedAt htexts id r)
  rw [hstations, List.filter_map, hlists]
  exact (listed_map Station.listingKey _ fun r _ => Station.apply_changedAt hkey id r).symm

theorem Faithful.change {l : Load} {w : Mirror} (h : w.Faithful l) (now : Instant) (id : Int)
    (status : Status) : (w.change now id status).Faithful l := by
  have hlegible : w.store.Rows StationRow.Legible := h.kept.mono fun _ hr => hr.legible
  obtain ⟨hreply, hview⟩ :
      (Registry.serve now (.updateStatus id status) w.store).1 =
          ((Registry.updateStatus id status).run (MemoryStore.handle now) w.store.view).1 ∧
        (Registry.serve now (.updateStatus id status) w.store).2.view =
          ((Registry.updateStatus id status).run (MemoryStore.handle now) w.store.view).2 :=
    Store.run_view ((Registry.updateStatus_callsOnly id status).mono (by decide)) hlegible now
  have hkind := Registry.isDatabase_serve now (.updateStatus id status) w.store
  have hkept := Registry.rows_serve h.kept now (.updateStatus id status)
  rw [Mirror.change]
  generalize Registry.serve now (.updateStatus id status) w.store = after at *
  obtain ⟨reply, s⟩ := after
  have hkind : s.isDatabase = w.store.isDatabase := hkind
  rcases Registry.run_updateStatus w.store.view now id status with ⟨e, hrun⟩ | ⟨r, hr, hrun⟩
  -- refused: the store shows what it showed, and nothing is noted
  · rw [hrun] at hreply hview
    obtain rfl : reply = .error e := hreply
    have hview : s.view = w.store.view := hview
    have hlists : l.lists s = l.lists w.store := funext fun r => l.lists_congr hkind rfl
    refine ⟨hkept, hview ▸ h.numbered, ?_⟩
    show w.snapshot.stations.map _ = (listed (s.stations.filter (l.lists s))).map _
    rw [hlists, s.stations_eq_view, hview, ← w.store.stations_eq_view]
    exact h.same
  -- accepted: record and entry change alike, but for the time of the write
  · rw [hrun] at hreply hview
    obtain rfl : reply = .ok true := hreply
    have hview : s.view = (MemoryStore.handle now (.update { r with status }) w.store.view).2 :=
      hview
    have hstations : s.stations = w.store.stations.map
        (Station.changedAt id fun r => { r with status, lastUpdated := some now }) := by
      rw [s.stations_eq_view, hview, h.numbered.stations_update hr, w.store.stations_eq_view]
    have hlisted := listed_changed hkind hstations (fun _ => rfl) (fun _ => rfl) l
    refine ⟨hkept, hview ▸ h.numbered.update now _, ?_⟩
    show (w.snapshot.noteStatus id status).stations.map (Station.undated (id :: w.noted)) =
      (listed (s.stations.filter (l.lists s))).map (Station.undated (id :: w.noted))
    have hnoted : ∀ change : Station → Station,
        (∀ r, (change r).timeless = ({ r with status } : Station).timeless) →
        Station.undated (id :: w.noted) ∘ Station.changedAt id change =
          Station.changedAt id (fun r => ({ r with status } : Station).timeless) ∘
            Station.undated w.noted :=
      fun _ hchange => funext (Station.undated_cons hchange w.noted)
    rw [stations_noteStatus h.distinct, hlisted, List.map_map, List.map_map,
      hnoted (fun r => { r with status }) fun _ => rfl,
      hnoted (fun r => { r with status, lastUpdated := some now }) fun _ => rfl,
      ← List.map_map, ← List.map_map, h.same]

theorem Faithful.run {l : Load} {w : Mirror} (h : w.Faithful l) (changes : List (Int × Status))
    (clock : Clock) : (w.run clock changes).Faithful l := by
  induction changes generalizing w clock with
  | nil => exact h
  | cons c changes ih => exact ih (h.change (clock 0) c.1 c.2) clock.tail

end Mirror

theorem filter_undated {keeps : Station → Bool} (hkeeps : ∀ r, keeps r.timeless = keeps r)
    (ids : List Int) (stations : List Station) :
    (stations.filter keeps).map (Station.undated ids) =
      (stations.map (Station.undated ids)).filter keeps := by
  have hundated : keeps ∘ Station.undated ids = keeps := by
    funext r
    by_cases hid : r.id ∈ ids
    · exact (congrArg keeps (Station.undated_of_mem hid)).trans (hkeeps r)
    · exact congrArg keeps (Station.undated_of_notMem hid)
  rw [List.filter_map, hundated]

theorem Tally.ofStations_undated (ids : List Int) (stations : List Station) :
    ofStations (stations.map (Station.undated ids)) = ofStations stations := by
  have hcount : ∀ status, countOf status (stations.map (Station.undated ids)) =
      countOf status stations := by
    intro status
    rw [countOf, countOf, List.countP_map]
    apply List.countP_congr
    intro r _
    have hstatus : (r.undated ids).status = r.status :=
      (apply_ite Station.status _ _ _).trans (ite_self _)
    show ((r.undated ids).status == status) = true ↔ _
    rw [hstatus]
  rw [ofStations, ofStations, hcount, hcount, hcount, List.length_map]

/-- A load lists the stations of the store that it is for, in the order of listings. Any changes of
status, each noted in the snapshot when the store has accepted it, leave the snapshot as loading it
anew would, but for the times of what was noted; so filters and tallies are those of the new one. A
change is noted just when its number is in the snapshot, in one entry. -/
theorem patched_eq_reloaded {s : Store} (hkept : s.Rows StationRow.Kept)
    (hnumbered : s.view.Numbered) (l : Snapshot.Load) (changes : List (Int × Status))
    (clock : Clock) (before after : Instant) :
    let loaded := (l.program.run (Store.handle before) s).1
    let w := Mirror.run ⟨s, loaded, []⟩ clock changes
    let reloaded := (l.program.run (Store.handle after) w.store).1
    (loaded.stations = listed (s.stations.filter (l.lists s)) ∧
        reloaded.stations = listed (w.store.stations.filter (l.lists w.store))) ∧
      w.snapshot.stations.map (Station.undated w.noted) =
        reloaded.stations.map (Station.undated w.noted) ∧
      (∀ text status, (w.snapshot.filter text status).map (Station.undated w.noted) =
        (reloaded.filter text status).map (Station.undated w.noted)) ∧
      w.snapshot.tally = reloaded.tally ∧
      ∀ id status, (w.snapshot.contains id = true ↔ id ∈ w.snapshot.stations.map Station.id) ∧
        (w.snapshot.contains id = false ∧ w.snapshot.noteStatus id status = w.snapshot ∨
          w.snapshot.contains id = true ∧ ∃ front r back,
            w.snapshot.stations = front ++ r :: back ∧ r.id = id ∧
              w.snapshot.noteStatus id status = ⟨front ++ { r with status } :: back⟩) := by
  intro loaded w reloaded
  have hloaded : loaded = ⟨listed (s.stations.filter (l.lists s))⟩ :=
    congrArg Prod.fst (l.run_program hkept before)
  have hstart : Mirror.Faithful l ⟨s, loaded, []⟩ := by
    refine ⟨hkept, hnumbered, ?_⟩
    rw [hloaded]
  have hw : w.Faithful l := hstart.run changes clock
  have hreloaded : reloaded = ⟨listed (w.store.stations.filter (l.lists w.store))⟩ :=
    congrArg Prod.fst (l.run_program hw.kept after)
  have hsame : w.snapshot.stations.map (Station.undated w.noted) =
      reloaded.stations.map (Station.undated w.noted) := by
    rw [hreloaded]
    exact hw.same
  refine ⟨⟨congrArg Snapshot.stations hloaded, congrArg Snapshot.stations hreloaded⟩, hsame,
    fun text status => ?_, ?_, fun id status => ⟨?_, ?_⟩⟩
  · have hkeeps : ∀ r : Station, (Filter.make text status).keeps r.timeless =
        (Filter.make text status).keeps r := fun _ => rfl
    rw [Snapshot.filter, Snapshot.filter, Filter.apply, Filter.apply, filter_undated hkeeps,
      filter_undated hkeeps, hsame]
  · rw [Snapshot.tally, Snapshot.tally, ← Tally.ofStations_undated w.noted, hsame,
      Tally.ofStations_undated]
  · rw [Snapshot.contains, List.any_eq_true, List.mem_map]
    simp
  · exact w.snapshot.noteStatus_cases id status

theorem patched_eq_reloaded_after_a_search :
    let now : Instant := .ofEpoch 0 0
    let row (id : Int) (name : String) : StationRow :=
      .ofStation id now (.draft name none .available)
    let s : Store := .database ⟨some ⟨[row 1 "Main St", row 2 "Quay", row 4 "Depot"], 4⟩,
      some .empty⟩
    let l : Snapshot.Load := .search "t"
    let loaded := (l.program.run (Store.handle now) s).1
    let w := Mirror.run ⟨s, loaded, []⟩ (fun n => .ofEpoch n 0)
      [(4, .charging), (2, .outOfService), (3, .charging), (4, .outOfService)]
    let reloaded := (l.program.run (Store.handle now) w.store).1
    w.noted = [4, 2, 4] ∧ w.snapshot.tally = reloaded.tally := by
  intro now row s l loaded w reloaded
  have hkept : s.Rows StationRow.Kept := by
    refine ⟨_, _, rfl, ?_⟩
    simp only [List.forall_mem_cons]
    exact ⟨StationRow.kept_ofStation 1 now _, StationRow.kept_ofStation 2 now _,
      StationRow.kept_ofStation 4 now _, nofun⟩
  have hnumbered : s.view.Numbered := ⟨by decide, by decide⟩
  have hnoted : w.noted = [4, 2, 4] := by decide +kernel
  obtain ⟨-, -, -, htally, -⟩ := patched_eq_reloaded hkept hnumbered l
    [(4, .charging), (2, .outOfService), (3, .charging), (4, .outOfService)]
    (fun n => .ofEpoch n 0) now now
  exact ⟨hnoted, htally⟩

end ChargingRegister
