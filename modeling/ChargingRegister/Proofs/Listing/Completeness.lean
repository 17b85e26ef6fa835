import ChargingRegister.Proofs.Registry.Request
import ChargingRegister.Proofs.Store.View
import ChargingRegister.Proofs.Text.Sigma

/-!
# Texts that are found wherever they stand

The filter and the stores of both kinds find a text in every station that contains it as it is,
provided that its capital sigmas have neighbours in it that decide on their form. They miss any
other text in some station, because its form is another there. A database, besides, reads texts up
to their first null character only and refuses long patterns.
-/
namespace ChargingRegister

namespace Station

def texts (s : Station) : List String :=
  s.name :: s.location.toList

/-- The text stands in the name or in the location, character for character. -/
def Contains (text : String) (s : Station) : Prop :=
  ∃ t ∈ s.texts, text.toList <:+: t.toList

def NullFree (s : Station) : Prop :=
  ∀ t ∈ s.texts, '\x00' ∉ t.toList

instance (text : String) (s : Station) : Decidable (s.Contains text) :=
  inferInstanceAs (Decidable (∃ t ∈ s.texts, _))

instance (s : Station) : Decidable s.NullFree :=
  inferInstanceAs (Decidable (∀ t ∈ s.texts, _))

theorem matchesText_eq (needle : String) (s : Station) :
    s.matchesText needle =
      s.texts.any fun t => Text.occurs needle.toList (Text.lowercase t).toList := by
  rw [matchesText, texts]
  cases s.location <;> simp

end Station

theorem StationRow.Kept.likeText_eq {r : StationRow} (h : r.Kept) (pattern : List Char) :
    r.likeText pattern =
      r.station.texts.any fun t => Like.matches? pattern (Text.lowercase t).toList := by
  rw [likeText, h.nameKey, h.locationKey, Station.texts, station]
  cases r.location <;> simp

/-- A text that a database can look for as it is, up to case and what its comparison folds. -/
def Database.Comparable (text : String) : Prop :=
  '\x00' ∉ text.toList ∧
    (String.ofList (searchPattern text)).utf8ByteSize ≤ Like.maxPatternBytes

instance (text : String) : Decidable (Database.Comparable text) :=
  inferInstanceAs (Decidable (_ ∧ _))

def Database.Fits (text : String) : Prop :=
  (String.ofList (searchPattern text)).utf8ByteSize ≤ Like.maxPatternBytes

instance (text : String) : Decidable (Database.Fits text) := Nat.decLe _ _

/-- A comparison takes nothing else for a small sigma. -/
theorem Like.folded_eq_iff {d : Char} (hd : d = 'σ' ∨ d = 'ς') (c : Char) :
    folded c = d ↔ c = d := by
  have hlower : c.toLower = d ↔ c = d := by
    have hd' : d.toNat = 963 ∨ d.toNat = 962 := by rcases hd with rfl | rfl <;> decide
    rw [← Char.toNat_inj, ← Char.toNat_inj, Text.toNat_toLower]
    split <;> omega
  have hlast : '\uFFFD' ≠ d ∧ '\uFFFE' ≠ d ∧ '\uFFFF' ≠ d := by
    rcases hd with rfl | rfl <;> decide
  rw [folded]
  split
  case isTrue h =>
    refine iff_of_false hlast.1 ?_
    rcases h with rfl | rfl
    · exact hlast.2.1
    · exact hlast.2.2
  case isFalse => exact hlower

namespace Store

def test (text : String) : Store → List Char → Bool
  | .memory _ => Text.occurs (Text.lowercase text).toList
  | .database _ => Like.matches? (Database.searchPattern text)

def finds (text : String) (store : Store) (s : Station) : Bool :=
  s.texts.any fun t => store.test text (Text.lowercase t).toList

theorem handle_search_finds {store : Store} (h : store.Rows StationRow.Kept) {text : String}
    (hfits : store.isDatabase = true → Database.Fits text) (now : Instant) :
    handle now (.search text) store =
      (.ok (listed (store.stations.filter (store.finds text))), store) := by
  cases store with
  | memory m =>
    have hfound : m.stations.filter (·.matchesText (Text.lowercase text)) =
        m.stations.filter ((memory m).finds text) :=
      List.filter_congr fun s _ => s.matchesText_eq _
    rw [stations, ← hfound]
    rfl
  | database db =>
    obtain ⟨t, u, rfl, hkept⟩ := h
    have hfound : t.rows.filter (·.likeText (Database.searchPattern text)) =
        t.rows.filter fun r => (database ⟨some t, some u⟩).finds text r.station :=
      List.filter_congr fun r hr => (hkept r hr).likeText_eq _
    have hlisted : (database ⟨some t, some u⟩).stations = t.rows.map StationRow.station := rfl
    rw [hlisted, List.filter_map]
    refine Prod.ext ?_ rfl
    exact (Database.searchRows_of_fits hkept (hfits rfl)).trans (by rw [hfound]; rfl)

/-- What a comparison sees of a character. -/
def seen : Store → Char → Char
  | .memory _ => id
  | .database _ => Like.folded

theorem count_map_seen (store : Store) {d : Char} (hd : d = 'σ' ∨ d = 'ς') (cs : List Char) :
    (cs.map store.seen).count d = cs.count d := by
  have hseen : ∀ c, store.seen c = d ↔ c = d := by
    cases store with
    | memory m => exact fun c => Iff.rfl
    | database db => exact Like.folded_eq_iff hd
  show (cs.map store.seen).countP (· == d) = cs.countP (· == d)
  rw [List.countP_map]
  refine List.countP_congr fun c _ => ?_
  simpa using hseen c

section

variable (store : Store) {text t : String}
  (htext : store.isDatabase = true → '\x00' ∉ text.toList)
  (ht : store.isDatabase = true → '\x00' ∉ t.toList)
include htext ht

theorem test_iff : store.test text (Text.lowercase t).toList = true ↔
    (Text.lowered [] text.toList).map store.seen <:+:
      (Text.lowered [] t.toList).map store.seen := by
  rw [← Text.toList_lowercase, ← Text.toList_lowercase]
  cases store with
  | memory m =>
    rw [test, Text.occurs_iff, seen, List.map_id, List.map_id]
  | database db =>
    have hneedle := Text.null_notMem_lowercase (htext rfl)
    have hkey := Text.null_notMem_lowercase (ht rfl)
    rw [test, Database.searchPattern, Like.matches?_containing hneedle hkey, Text.occurs_iff, seen]

theorem test_of_infix (h : Text.lowered [] text.toList <:+: Text.lowered [] t.toList) :
    store.test text (Text.lowercase t).toList = true :=
  (store.test_iff htext ht).mpr (h.map store.seen)

theorem not_test_of_count {d : Char} (hd : d = 'σ' ∨ d = 'ς')
    (h : (Text.lowered [] t.toList).count d < (Text.lowered [] text.toList).count d) :
    store.test text (Text.lowercase t).toList = false := by
  rw [← Bool.not_eq_true, store.test_iff htext ht]
  intro hinfix
  have hle := hinfix.sublist.count_le d
  rw [store.count_map_seen hd, store.count_map_seen hd] at hle
  exact Nat.not_le.mpr h hle

end

section

variable {text : String}

/-- A text whose sigmas are decided is found in every station that contains it. -/
theorem finds_of_contains (store : Store) (htext : store.isDatabase = true → '\x00' ∉ text.toList)
    (hdecided : Text.SigmasDecided text.toList) {s : Station}
    (hs : store.isDatabase = true → s.NullFree) (h : s.Contains text) :
    store.finds text s = true := by
  obtain ⟨t, ht, hinfix⟩ := h
  rw [finds, List.any_eq_true]
  exact ⟨t, ht, store.test_of_infix htext (fun hstore => hs hstore t ht)
    (hdecided.lowered_infix hinfix)⟩

/-- The text stands in the name, and no store finds it there. -/
structure Missed (text name : String) : Prop where
  stands : text.toList <:+: name.toList
  nullFree : '\x00' ∉ text.toList → '\x00' ∉ name.toList
  unfound : ∀ store : Store, (store.isDatabase = true → '\x00' ∉ text.toList) →
    ∀ s : Station, s.texts = [name] → store.finds text s = false

/-- A name is missed when its form holds one of the small sigmas less often. -/
theorem missed_of_count {cs : List Char} {d : Char} (hd : d = 'σ' ∨ d = 'ς')
    (hstands : text.toList <:+: cs) (hnull : '\x00' ∉ text.toList → '\x00' ∉ cs)
    (hcount : (Text.lowered [] cs).count d < (Text.lowered [] text.toList).count d) :
    Missed text (String.ofList cs) := by
  rw [← String.toList_ofList (l := cs)] at hstands hnull hcount
  refine ⟨hstands, hnull, fun store htext s hs => ?_⟩
  rw [finds, hs, List.any_cons, List.any_nil, Bool.or_false]
  exact store.not_test_of_count htext (fun h => hnull (htext h)) hd hcount

theorem exists_missed (h : ¬ Text.SigmasDecided text.toList) : ∃ name, Missed text name := by
  rcases Text.count_lowered_lt h with hcount | hcount
  · refine ⟨_, missed_of_count (.inl rfl) (List.suffix_cons _ _).isInfix (fun hnull => ?_) hcount⟩
    simpa using hnull
  · refine ⟨_, missed_of_count (.inr rfl) (List.prefix_append _ _).isInfix (fun hnull => ?_) hcount⟩
    simpa using hnull

end

theorem stations_of_insert {start : Store} (hstart : start.IsNew) (clock : Clock) (s : Station) :
    (runCalls handle clock [.insert s] start).2.stations =
      [{ s with id := 1, lastUpdated := some (clock 0) }] := by
  rcases hstart with rfl | rfl
  · rfl
  · rw [runCalls_database, runCalls_cons, Database.handle_insert_fresh]
    show [(StationRow.ofStation 1 (clock 0) s).station] = _
    rw [StationRow.station_ofStation]

end Store

theorem Filter.mem_apply_make_iff {text : String} {stations : List Station} {s : Station} :
    s ∈ (Filter.make text none).apply stations ↔
      s ∈ stations ∧ (Store.memory .empty).finds (Text.trim text) s = true := by
  rw [apply_make_none, List.mem_filter, Station.matchesText_eq]
  rfl

theorem Filter.notMem_apply_of_missed {text name : String}
    (h : Store.Missed (Text.trim text) name) {s : Station} (hs : s.texts = [name])
    (stations : List Station) : s ∉ (Filter.make text none).apply stations := by
  intro hmem
  have hfound := (mem_apply_make_iff.mp hmem).2
  rw [h.unfound _ Store.elim_isDatabase_memory s hs] at hfound
  cases hfound

section

variable {store : Store} (h : store.Rows StationRow.Kept) {text : String}
  (htext : store.isDatabase = true → Database.Comparable (Text.trim text)) (now : Instant)
include h htext

theorem Registry.mem_search_iff {s : Station} :
    s ∈ ((search text).run (Store.handle now) store).1 ↔
      s ∈ store.stations ∧ (Text.blank text = true ∨ store.finds (Text.trim text) s = true) := by
  cases hblank : Text.blank text with
  | true =>
    rw [search_of_blank hblank, findAll_run h, listed, List.mem_mergeSort]
    simp
  | false =>
    rw [search_of_text hblank, Program.run_call,
      Store.handle_search_finds h fun hstore => (htext hstore).2]
    show s ∈ listed _ ↔ _
    rw [listed, List.mem_mergeSort, List.mem_filter]
    simp

theorem Registry.notMem_search_of_missed {name : String} (hblank : Text.blank text = false)
    (hmissed : Store.Missed (Text.trim text) name) {s : Station} (hs : s.texts = [name]) :
    s ∉ ((search text).run (Store.handle now) store).1 := by
  rw [mem_search_iff h htext, hblank, hmissed.unfound store (fun h => (htext h).1) s hs]
  simp

end

/-- The filter for the text keeps each station of a list that contains it, but for the blanks
around the text. -/
def Filter.Complete (text : String) : Prop :=
  ∀ stations : List Station, ∀ s ∈ stations, s.Contains (Text.trim text) →
    s ∈ (Filter.make text none).apply stations

/-- So does the register, whatever was done to its store; a database is to hold no null characters
in the texts of the station. -/
def Registry.Complete (start : Store) (text : String) : Prop :=
  ∀ (ops : List StoreOp) (clock : Clock) (now : Instant),
    let store := (runCalls Store.handle clock ops start).2
    ∀ s ∈ store.stations, (start = .database .fresh → s.NullFree) →
      s.Contains (Text.trim text) → s ∈ ((Registry.search text).run (Store.handle now) store).1

theorem Filter.complete_iff (text : String) :
    Complete text ↔ Text.SigmasDecided (Text.trim text).toList := by
  constructor
  · intro hall
    by_contra hopen
    obtain ⟨name, hmissed⟩ := Store.exists_missed hopen
    let s : Station := .draft name none .available
    have hcontains : s.Contains (Text.trim text) := ⟨name, List.mem_cons_self, hmissed.stands⟩
    exact notMem_apply_of_missed hmissed rfl [s] (hall [s] s (List.mem_singleton_self s) hcontains)
  · intro hdecided stations s hs hcontains
    exact mem_apply_make_iff.mpr ⟨hs, Store.finds_of_contains _ Store.elim_isDatabase_memory
      hdecided Store.elim_isDatabase_memory hcontains⟩

theorem Registry.complete_iff {start : Store} (hstart : start.IsNew) {text : String}
    (htext : start = .database .fresh → Database.Comparable (Text.trim text)) :
    Complete start text ↔ Text.SigmasDecided (Text.trim text).toList := by
  have hfresh : ∀ clock ops, (runCalls Store.handle clock ops start).2.isDatabase = true →
      start = .database .fresh := fun clock ops h =>
    hstart.eq_fresh (Store.isDatabase_runCalls clock ops start ▸ h)
  constructor
  · intro hall
    by_contra hopen
    have hblank : Text.blank text = false := by
      refine Bool.eq_false_iff.mpr fun hblank => hopen ?_
      rw [List.isEmpty_iff.mp hblank]
      decide
    -- a name in which the text stands but is not found, as the only record
    obtain ⟨name, hmissed⟩ := Store.exists_missed hopen
    let clock : Clock := fun _ => .ofEpoch 0 0
    let ops : List StoreOp := [.insert (.draft name none .available)]
    let s : Station := ⟨1, name, none, .available, some (clock 0)⟩
    have hs : s ∈ (runCalls Store.handle clock ops start).2.stations := by
      rw [Store.stations_of_insert hstart]
      exact List.mem_singleton_self s
    have hnull : start = .database .fresh → s.NullFree := fun h t ht =>
      List.mem_singleton.mp ht ▸ hmissed.nullFree (htext h).1
    have hcontains : s.Contains (Text.trim text) := ⟨name, List.mem_cons_self, hmissed.stands⟩
    exact notMem_search_of_missed (Store.kept_runCalls hstart ops clock)
      (fun h => htext (hfresh _ _ h)) (clock 1) hblank hmissed rfl
      (hall ops clock (clock 1) s hs hnull hcontains)
  · intro hdecided ops clock now store s hs hnull hcontains
    refine (mem_search_iff (Store.kept_runCalls hstart ops clock)
      (fun h => htext (hfresh _ _ h)) now).mpr ⟨hs, .inr ?_⟩
    exact Store.finds_of_contains store (fun h => (htext (hfresh _ _ h)).1) hdecided
      (fun h => hnull (hfresh _ _ h)) hcontains

/-- A text is found wherever it stands, by the filter and by the register over a store of either
kind, just when all capital sigmas in it are decided. For a database, it is to be free of null
characters and its pattern not too long. -/
theorem search_complete_iff {start : Store} (hstart : start.IsNew) (text : String)
    (htext : start = .database .fresh → Database.Comparable (Text.trim text)) :
    (Filter.Complete text ↔ Text.SigmasDecided (Text.trim text).toList) ∧
      (Registry.Complete start text ↔ Text.SigmasDecided (Text.trim text).toList) :=
  ⟨Filter.complete_iff text, Registry.complete_iff hstart htext⟩

theorem search_complete_about_final_sigma :
    Filter.Complete " ΟΔΟΣ 1" ∧ Registry.Complete (.database .fresh) " ΟΔΟΣ 1" :=
  have h := search_complete_iff (.inr rfl) " ΟΔΟΣ 1" (fun _ => by decide +kernel)
  ⟨h.1.mpr (by decide +kernel), h.2.mpr (by decide +kernel)⟩

/-- A sigma that ends the text is missed where a word goes on behind it. -/
theorem search_misses_final_sigma :
    let s : Station := ⟨1, "ΑΣΑ", none, .available, some (.ofEpoch 0 0)⟩
    s.Contains "ΑΣ" ∧ s ∉ (Filter.make "ΑΣ" none).apply [s] ∧
      ∀ start ∈ [Store.memory .empty, .database .fresh],
        let store := (runCalls Store.handle (fun _ => .ofEpoch 0 0)
          [.insert (.draft "ΑΣΑ" none .available)] start).2
        s ∈ store.stations ∧
          s ∉ ((Registry.search "ΑΣ").run (Store.handle (.ofEpoch 1 0)) store).1 := by
  intro s
  have htext : Database.Comparable (Text.trim "ΑΣ") := by decide +kernel
  have hmissed : Store.Missed (Text.trim "ΑΣ") (String.ofList ['Α', 'Σ', 'Α']) :=
    Store.missed_of_count (.inr rfl) (by decide +kernel) (by decide) (by decide +kernel)
  refine ⟨by decide +kernel, Filter.notMem_apply_of_missed hmissed rfl [s], ?_⟩
  intro start hstart store
  have hnew : start = .memory .empty ∨ start = .database .fresh := by simpa using hstart
  refine ⟨?_, ?_⟩
  · rw [show store.stations = [s] from Store.stations_of_insert hnew _ _]
    exact List.mem_singleton_self s
  · exact Registry.notMem_search_of_missed (Store.kept_runCalls hnew _ _) (fun _ => htext) _
      (by decide +kernel) hmissed rfl

end ChargingRegister
