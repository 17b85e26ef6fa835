import ChargingRegister.Proofs.Listing.Completeness
import ChargingRegister.Proofs.Store.Numbers

/-!
# Listings are canonical

Records with numbers of their own have one strictly increasing order, whichever way a store goes
through them. So a listing depends on nothing but the records that are there, and a search leaves
those that it finds in the same order. Only a database refuses a search, for a pattern that is too
long to be compared with a row.
-/
namespace ChargingRegister

namespace Text

def codePoints (s : String) : List Nat :=
  s.toList.map Char.toNat

theorem map_toNat_lt_iff (cs ds : List Char) : cs.map Char.toNat < ds.map Char.toNat ↔ cs < ds := by
  induction cs generalizing ds with
  | nil => cases ds <;> simp
  | cons c cs ih =>
    cases ds with
    | nil => simp
    | cons d ds =>
      have hcode : c.toNat < d.toNat ↔ c < d := Iff.rfl
      rw [List.map_cons, List.map_cons, List.cons_lt_cons_iff, List.cons_lt_cons_iff, ih, hcode,
        Char.toNat_inj]

theorem codePoints_lt_iff {s t : String} : codePoints s < codePoints t ↔ s < t :=
  (map_toNat_lt_iff _ _).trans String.lt_iff_toList_lt.symm

end Text

namespace Station

open Text

/-- Stands before another in every listing: by lowercase name, then name, then number. -/
def Precedes (a b : Station) : Prop :=
  codePoints (lowercase a.name) < codePoints (lowercase b.name) ∨
    lowercase a.name = lowercase b.name ∧
      (codePoints a.name < codePoints b.name ∨ a.name = b.name ∧ a.id < b.id)

theorem precedes_iff {a b : Station} :
    a.Precedes b ↔ a.listingKey.lexForm < b.listingKey.lexForm := by
  rw [Precedes, codePoints_lt_iff, codePoints_lt_iff, ListingKey.lexForm, ListingKey.lexForm,
    Prod.Lex.toLex_lt_toLex, Prod.Lex.toLex_lt_toLex]
  rfl

theorem Precedes.not_precedes {a b : Station} (h : a.Precedes b) : ¬ b.Precedes a := by
  rw [precedes_iff] at *
  exact h.asymm

theorem precedes_of_le {a b : Station} (hle : a.listingKey.le b.listingKey = true)
    (hid : a.id ≠ b.id) : a.Precedes b := by
  rw [precedes_iff]
  refine lt_of_le_of_ne (ListingKey.le_iff_lexForm.mp hle) fun heq => hid ?_
  exact congrArg (fun k => (ofLex (ofLex k).2).2) heq

end Station

section

variable {stations : List Station}

theorem listed_perm (stations : List Station) : (listed stations).Perm stations :=
  List.mergeSort_perm _ _

theorem pairwise_listed (h : (stations.map Station.id).Nodup) :
    (listed stations).Pairwise Station.Precedes := by
  have hsorted : (listed stations).Pairwise fun a b => a.listingKey.le b.listingKey = true :=
    List.pairwise_mergeSort
      (fun a b c => ListingKey.le_of_le_of_le a.listingKey b.listingKey c.listingKey)
      (fun a b => ListingKey.le_or_le a.listingKey b.listingKey) stations
  have hids : (listed stations).Pairwise fun a b => a.id ≠ b.id :=
    List.pairwise_map.mp (((listed_perm stations).map Station.id).nodup_iff.mpr h)
  exact hsorted.imp₂ (fun a b hle hid => Station.precedes_of_le hle hid) hids

/-- A strictly increasing order of the records is the listing. -/
theorem eq_listed_of_pairwise (h : (stations.map Station.id).Nodup) {l : List Station}
    (hl : l.Pairwise Station.Precedes) (hperm : l.Perm stations) : l = listed stations :=
  List.Perm.eq_of_pairwise (fun _ _ _ _ hab hba => absurd hba hab.not_precedes) hl
    (pairwise_listed h) (hperm.trans (listed_perm stations).symm)

/-- The way a store goes through its records does not show. -/
theorem listed_eq_of_perm (h : (stations.map Station.id).Nodup) {l : List Station}
    (hperm : l.Perm stations) : listed l = listed stations := by
  have hids : (l.map Station.id).Nodup := (hperm.map Station.id).nodup_iff.mpr h
  exact eq_listed_of_pairwise h (pairwise_listed hids) ((listed_perm l).trans hperm)

/-- The same records are listed alike, whatever order they are in. -/
theorem listed_eq_of_mem_iff {stations' : List Station} (h : (stations.map Station.id).Nodup)
    (h' : (stations'.map Station.id).Nodup) (hsame : ∀ r, r ∈ stations ↔ r ∈ stations') :
    listed stations' = listed stations := by
  refine listed_eq_of_perm h ?_
  rw [List.perm_ext_iff_of_nodup (h'.of_map _) (h.of_map _)]
  exact fun r => (hsame r).symm

theorem filter_mem_filter (l : List Station) (p : Station → Bool) :
    l.filter (· ∈ l.filter p) = l.filter p := by
  refine List.filter_congr fun r hr => ?_
  rw [Bool.eq_iff_iff, decide_eq_true_eq, List.mem_filter]
  exact and_iff_right hr

end

namespace Database

theorem searchRows_of_long {text : String} {rows : List StationRow} (hsome : rows ≠ [])
    (hlong : ¬ Fits text) :
    searchRows text rows = .error (failure (.search text) .patternTooLong) := by
  have hbytes : Like.maxPatternBytes < (String.ofList (searchPattern text)).utf8ByteSize :=
    Nat.not_le.mp hlong
  simp [searchRows, hsome, hbytes]

theorem searchRows_nil (text : String) : searchRows text [] = .ok [] := by
  simp only [searchRows, List.isEmpty_nil, Bool.not_true, Bool.false_and, Bool.false_eq_true,
    if_false, List.filter_nil, listedRows, List.mergeSort_nil]
  rfl

end Database

namespace Store

/-- A database does not compare any row with a pattern that is too long. -/
def RefusesSearch (text : String) (s : Store) : Prop :=
  s.isDatabase = true ∧ s.stations ≠ [] ∧ ¬ Database.Fits text

variable {s : Store} (h : s.Rows StationRow.Kept) {text : String}
include h

theorem handle_search_of_refused (hrefused : s.RefusesSearch text) (now : Instant) :
    (handle now (.search text) s).1 =
      .error (Database.failure (.search text) .patternTooLong) := by
  obtain ⟨hdatabase, hsome, hlong⟩ := hrefused
  cases s with
  | memory m => cases hdatabase
  | database db =>
    obtain ⟨t, u, rfl, -⟩ := h
    have hrows : t.rows ≠ [] := fun hnil => hsome (congrArg (List.map StationRow.station) hnil)
    exact Database.searchRows_of_long hrows hlong

/-- Any other search is answered, also one of a table without rows. -/
theorem handle_search_of_not_refused (hserved : ¬ s.RefusesSearch text) (now : Instant) :
    (handle now (.search text) s).1 = .ok ((listed s.stations).filter (s.finds text)) := by
  rw [filter_listed]
  by_cases hfits : s.isDatabase = true → Database.Fits text
  · rw [handle_search_finds h hfits]
  · obtain ⟨hdatabase, hlong⟩ := Classical.not_imp.mp hfits
    have hnone : s.stations = [] := by_contra fun hsome => hserved ⟨hdatabase, hsome, hlong⟩
    rw [hnone, List.filter_nil, listed, List.mergeSort_nil]
    cases s with
    | memory m => cases hdatabase
    | database db =>
      obtain ⟨t, u, rfl, -⟩ := h
      have hrows : t.rows = [] := List.map_eq_nil_iff.mp hnone
      show Database.searchRows text t.rows = .ok []
      rw [hrows, Database.searchRows_nil]

end Store

/-- A search finds the stations of a listing in its order, or nothing at all when it is refused. -/
theorem Registry.search_run_eq_filter {s : Store} (h : s.Rows StationRow.Kept) (text : String)
    (now : Instant) : ∃ p : Station → Bool,
      ((Registry.search text).run (Store.handle now) s).1 = (listed s.stations).filter p := by
  cases hblank : Text.blank text with
  | true =>
    rw [search_of_blank hblank, findAll_run h]
    exact ⟨fun _ => true, (List.filter_true _).symm⟩
  | false =>
    rw [search_of_text hblank, Program.run_call, Program.run_done]
    by_cases hrefused : s.RefusesSearch (Text.trim text)
    · rw [Store.handle_search_of_refused h hrefused]
      exact ⟨fun _ => false, (List.filter_false _).symm⟩
    · rw [Store.handle_search_of_not_refused h hrefused]
      exact ⟨_, rfl⟩

namespace Store

/-- Stores of one kind look at texts in the same way. -/
theorem finds_congr {s s' : Store} (h : s.isDatabase = s'.isDatabase) (text : String) :
    s.finds text = s'.finds text := by
  cases s <;> cases s'
  case memory.memory | database.database => rfl
  case memory.database | database.memory => cases h

theorem nodup_id_runCalls {start : Store} (hstart : start.IsNew) (clock : Clock)
    (ops : List StoreOp) : ((runCalls handle clock ops start).2.stations.map Station.id).Nodup := by
  rw [stations_eq_view]
  exact (numbered_runCalls hstart clock ops).distinct

/-- Two stores of one kind with the same records answer searches alike. -/
theorem handle_search_eq_of_mem_iff {s s' : Store} (h : s.Rows StationRow.Kept)
    (h' : s'.Rows StationRow.Kept) (hids : (s.stations.map Station.id).Nodup)
    (hids' : (s'.stations.map Station.id).Nodup)
    (hsame : ∀ r, r ∈ s.stations ↔ r ∈ s'.stations) (hkind : s'.isDatabase = s.isDatabase)
    (text : String) (now now' : Instant) :
    (handle now' (.search text) s').1 = (handle now (.search text) s).1 := by
  have hnone : s'.stations = [] ↔ s.stations = [] := by
    simp only [List.eq_nil_iff_forall_not_mem, hsame]
  have hrefuses : s'.RefusesSearch text ↔ s.RefusesSearch text := by
    rw [RefusesSearch, RefusesSearch, hkind, ne_eq, hnone]
  by_cases hrefused : s.RefusesSearch text
  · rw [handle_search_of_refused h hrefused, handle_search_of_refused h' (hrefuses.mpr hrefused)]
  · rw [handle_search_of_not_refused h hrefused,
      handle_search_of_not_refused h' (mt hrefuses.mp hrefused), finds_congr hkind,
      listed_eq_of_mem_iff hids hids' hsame]

end Store

/-- Whatever was done to a new store of either kind: its listing is a rearrangement of its records,
each once, in strictly increasing order. A search leaves those that it finds in that order; only a
database that has rows refuses one, for a pattern of more than 50000 bytes, and the register then
finds nothing. It makes no difference in which order a store goes through its records, nor by which
operations they came to be there. -/
theorem listing_is_canonical {start : Store} (hstart : start.IsNew) (ops : List StoreOp)
    (clock : Clock) (now : Instant) :
    let s := (runCalls Store.handle clock ops start).2
    let all := listed s.stations
    Store.handle now .findAll s = (.ok all, s) ∧
      all.Perm s.stations ∧ all.Nodup ∧ all.Pairwise Station.Precedes ∧
      (∀ text, (¬ s.RefusesSearch text →
          (Store.handle now (.search text) s).1 = .ok (all.filter (s.finds text))) ∧
        (s.RefusesSearch text → (Store.handle now (.search text) s).1 =
          .error (Database.failure (.search text) .patternTooLong))) ∧
      (∀ text, let found := ((Registry.search text).run (Store.handle now) s).1
        found = all.filter (· ∈ found)) ∧
      (∀ l : List Station, l.Perm s.stations →
        listed l = all ∧ ∀ p, listed (l.filter p) = all.filter p) ∧
      ∀ {start' : Store}, start'.IsNew → ∀ (ops' : List StoreOp) (clock' : Clock) (now' : Instant),
        let s' := (runCalls Store.handle clock' ops' start').2
        (∀ r, r ∈ s.stations ↔ r ∈ s'.stations) →
          (Store.handle now' .findAll s').1 = (Store.handle now .findAll s).1 ∧
            (s'.isDatabase = s.isDatabase → ∀ text,
              (Store.handle now' (.search text) s').1 = (Store.handle now (.search text) s).1) := by
  intro s all
  have hkept : s.Rows StationRow.Kept := Store.kept_runCalls hstart ops clock
  have hids : (s.stations.map Station.id).Nodup := Store.nodup_id_runCalls hstart clock ops
  have hall : Store.handle now .findAll s = (.ok all, s) := Store.handle_findAll hkept now
  have hnodup : all.Nodup := (listed_perm s.stations).nodup_iff.mpr (hids.of_map _)
  refine ⟨hall, listed_perm _, hnodup, pairwise_listed hids, fun text => ⟨?_, ?_⟩, fun text => ?_,
    fun l hperm => ?_, fun {start'} hstart' ops' clock' now' => ?_⟩
  · exact fun hserved => Store.handle_search_of_not_refused hkept hserved now
  · exact fun hrefused => Store.handle_search_of_refused hkept hrefused now
  · obtain ⟨p, hp⟩ := Registry.search_run_eq_filter hkept text now
    rw [hp]
    exact (filter_mem_filter all p).symm
  · have hlisted := listed_eq_of_perm hids hperm
    refine ⟨hlisted, fun p => ?_⟩
    rw [← filter_listed, hlisted]
  · intro s' hsame
    have hkept' : s'.Rows StationRow.Kept := Store.kept_runCalls hstart' ops' clock'
    have hids' : (s'.stations.map Station.id).Nodup := Store.nodup_id_runCalls hstart' clock' ops'
    refine ⟨?_, fun hkind text => ?_⟩
    · rw [hall, Store.handle_findAll hkept' now',
        listed_eq_of_mem_iff hids hids' hsame]
    · exact Store.handle_search_eq_of_mem_iff hkept hkept' hids hids' hsame hkind text now now'

/-- Names that share a lowercase form, in a database and in a store in memory with another past. -/
theorem listing_is_canonical_past_renames :
    let s := (runCalls Store.handle (fun _ => .ofEpoch 0 0)
      [.insert (.draft "öko" none .charging), .insert (.draft "Öko" none .available),
        .insert (.draft "b" none .available), .delete 3] (.database .fresh)).2
    let s' := (runCalls Store.handle (fun _ => .ofEpoch 0 0)
      [.insert (.draft "x" none .available), .insert (.draft "Öko" none .available),
        .update ⟨1, "öko", none, .charging, none⟩] (.memory .empty)).2
    (listed s.stations).Pairwise Station.Precedes ∧
      (Store.handle (.ofEpoch 9 0) .findAll s').1 = (Store.handle (.ofEpoch 9 0) .findAll s).1 := by
  intro s s'
  obtain ⟨-, -, -, hsorted, -, -, -, hpast⟩ :=
    listing_is_canonical (.inr rfl) _ _ (.ofEpoch 9 0)
  have hsame : s.stations = s'.stations := by decide +kernel
  exact ⟨hsorted, (hpast (.inl rfl) _ _ _ fun r => by rw [hsame]).1⟩

end ChargingRegister
