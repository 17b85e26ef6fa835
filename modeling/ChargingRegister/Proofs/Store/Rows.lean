import ChargingRegister.Proofs.Listing.Order
import ChargingRegister.Proofs.Store.Pattern
import ChargingRegister.Proofs.Store.Run

/-!
# What the rows of a database hold

A row that a write put in place has lowercase copies of its texts, the token of a status and a
time that can be read. Every operation leaves such rows behind, and the listings and searches of
a database that holds nothing else are those of the stations in its rows.
-/
namespace ChargingRegister

def TimeCell.instant? : TimeCell → Option Instant
  | .instant i => some i
  | .illegible _ => none

/-- Its texts are compared by a search as they are, apart from case. -/
def Station.Plain (s : Station) : Prop :=
  Like.PlainText s.name ∧ ∀ l ∈ s.location, Like.PlainText l

instance (s : Station) : Decidable s.Plain := inferInstanceAs (Decidable (_ ∧ _))

namespace StationRow

/-- The station in a row, without a time when that cannot be read. -/
def station (r : StationRow) : Station :=
  ⟨r.id, r.name, r.location, Status.ofText r.status, r.lastUpdated.instant?⟩

/-- The row is one that writing a station puts into the table. -/
structure Kept (r : StationRow) : Prop where
  nameKey : r.nameKey = Text.lowercase r.name
  locationKey : r.locationKey = r.location.map Text.lowercase
  status : r.status = (Status.ofText r.status).token
  legible : ∃ i, r.lastUpdated = .instant i

@[simp] theorem stationAt_ofStation (id : Int) (now : Instant) (s : Station) :
    (ofStation id now s).stationAt now = { s with id, lastUpdated := some now } := by
  simp [stationAt, ofStation, Status.ofText_token]

@[simp] theorem station_ofStation (id : Int) (now : Instant) (s : Station) :
    (ofStation id now s).station = { s with id, lastUpdated := some now } := by
  simp [station, ofStation, Status.ofText_token, TimeCell.instant?]

theorem kept_ofStation (id : Int) (now : Instant) (s : Station) : (ofStation id now s).Kept where
  nameKey := rfl
  locationKey := rfl
  status := congrArg Status.token (Status.ofText_token s.status).symm
  legible := ⟨now, rfl⟩

def Legible (r : StationRow) : Prop :=
  ∃ i, r.lastUpdated = .instant i

theorem Legible.read_eq {r : StationRow} (h : r.Legible) : r.read = .ok r.station := by
  obtain ⟨i, hi⟩ := h
  rw [read, station, hi]
  rfl

theorem legible_ofStation (id : Int) (now : Instant) (s : Station) :
    (ofStation id now s).Legible :=
  ⟨now, rfl⟩

theorem Kept.listingKey_station {r : StationRow} (h : r.Kept) :
    r.station.listingKey = r.listingKey := by
  rw [listingKey, h.nameKey]
  rfl

/-- The pattern of a text finds a row just when the station in it contains the text. -/
theorem Kept.likeText_searchPattern {r : StationRow} (h : r.Kept) (hplain : r.station.Plain)
    {text : String} (htext : Like.PlainText text) :
    r.likeText (Database.searchPattern text) = r.station.matchesText (Text.lowercase text) := by
  have hplace : (r.location.map Text.lowercase).any (fun key =>
        Like.matches? (Database.searchPattern text) key.toList) =
      r.location.any fun l =>
        Text.occurs (Text.lowercase text).toList (Text.lowercase l).toList := by
    cases hl : r.location with
    | none => rfl
    | some l => exact Like.matches?_lowercase htext (hplain.2 l hl)
  rw [likeText, h.nameKey, h.locationKey, hplace]
  exact congrArg (· || _) (Like.matches?_lowercase htext hplain.1)

end StationRow

namespace Database

/-- A text that a search compares as it is, apart from case, and can compare at all. -/
def Searchable (text : String) : Prop :=
  Like.PlainText text ∧
    (String.ofList (searchPattern text)).utf8ByteSize ≤ Like.maxPatternBytes

instance (text : String) : Decidable (Searchable text) := inferInstanceAs (Decidable (_ ∧ _))

theorem mapM_readRow (op : StoreOp) {rows : List StationRow} (h : ∀ r ∈ rows, r.Legible) :
    rows.mapM (readRow op) = .ok (rows.map StationRow.station) := by
  induction rows with
  | nil => rfl
  | cons r rows ih =>
    obtain ⟨hr, hrows⟩ := List.forall_mem_cons.mp h
    rw [List.mapM_cons, ih hrows, readRow, hr.read_eq]
    rfl

theorem listedRows_of_kept (op : StoreOp) {rows : List StationRow} (h : ∀ r ∈ rows, r.Kept) :
    listedRows op rows = .ok (listed (rows.map StationRow.station)) := by
  have hsorted : ∀ r ∈ rows.mergeSort fun a b => a.listingKey.le b.listingKey, r.Kept :=
    fun r hr => h r (List.mem_mergeSort.mp hr)
  rw [listedRows, mapM_readRow op fun r hr => (hsorted r hr).legible,
    listed_map StationRow.listingKey StationRow.station fun r hr => (h r hr).listingKey_station]

theorem searchRows_of_fits {text : String} {rows : List StationRow} (h : ∀ r ∈ rows, r.Kept)
    (hfits : (String.ofList (searchPattern text)).utf8ByteSize ≤ Like.maxPatternBytes) :
    searchRows text rows =
      .ok (listed ((rows.filter (·.likeText (searchPattern text))).map StationRow.station)) := by
  have hfits' := Nat.not_lt.mpr hfits
  simp only [searchRows, hfits', decide_false, Bool.and_false, Bool.false_eq_true, if_false]
  exact listedRows_of_kept _ fun r hr => h r (List.mem_filter.mp hr).1

theorem searchRows_of_kept {text : String} {rows : List StationRow} (h : ∀ r ∈ rows, r.Kept)
    (hplain : ∀ r ∈ rows, r.station.Plain) (htext : Searchable text) :
    searchRows text rows = .ok (listed ((rows.map StationRow.station).filter
      (·.matchesText (Text.lowercase text)))) := by
  have hfound : rows.filter (·.likeText (searchPattern text)) =
      rows.filter fun r => r.station.matchesText (Text.lowercase text) :=
    List.filter_congr fun r hr => (h r hr).likeText_searchPattern (hplain r hr) htext.1
  rw [searchRows_of_fits h htext.2, hfound, List.filter_map]
  rfl

/-- The database finds its only row or does not, unless the pattern is too long. -/
theorem map_length_searchRows {text : String} {row : StationRow} (h : row.Kept) :
    (searchRows text [row]).map List.length =
      if Like.maxPatternBytes < (String.ofList (searchPattern text)).utf8ByteSize then
        .error (failure (.search text) .patternTooLong)
      else .ok (if row.likeText (searchPattern text) then 1 else 0) := by
  simp only [searchRows, List.isEmpty_cons, Bool.not_false, Bool.true_and, decide_eq_true_eq]
  split
  case isTrue => rfl
  case isFalse =>
    rw [listedRows_of_kept _ fun r hr => List.mem_singleton.mp (List.mem_filter.mp hr).1 ▸ h]
    show Except.ok (listed _).length = _
    rw [listed, List.length_mergeSort, List.length_map, ← List.countP_eq_length_filter,
      List.countP_singleton]

/-- Both tables are there, and every station's row has the property. -/
def Holds (P : StationRow → Prop) (db : Database) : Prop :=
  ∃ t u, db = ⟨some t, some u⟩ ∧ ∀ r ∈ t.rows, P r

end Database

namespace StoreOp

def written? : StoreOp → Option Station
  | .insert station | .update station => some station
  | _ => none

def searched? : StoreOp → Option String
  | .search text => some text
  | _ => none

end StoreOp

namespace Database

theorem holds_fresh (P : StationRow → Prop) : fresh.Holds P :=
  ⟨_, _, rfl, fun _ h => absurd h List.not_mem_nil⟩

variable {P : StationRow → Prop}

theorem insertStation_forall {now : Instant} {s : Station} {t : Table StationRow}
    (hs : ∀ id, P (.ofStation id now s)) (h : ∀ r ∈ t.rows, P r) :
    ∀ r ∈ (insertStation now s t).2.rows, P r := by
  unfold insertStation
  split
  case h_1 => exact h
  case h_2 id _ =>
    intro r hr
    rcases List.mem_append.mp hr with hr | hr
    · exact h r hr
    · exact List.mem_singleton.mp hr ▸ hs id

theorem updateRows_forall {now : Instant} {s : Station} {rows : List StationRow}
    (hs : ∀ id, P (.ofStation id now s)) (h : ∀ r ∈ rows, P r) :
    ∀ r ∈ updateRows now s rows, P r := by
  intro r hr
  obtain ⟨r', hr', rfl⟩ := List.mem_map.mp hr
  split
  · exact hs _
  · exact h r' hr'

/-- An operation leaves rows behind that were there or that its own record makes. -/
theorem holds_handle {now : Instant} {op : StoreOp}
    (hop : ∀ s ∈ op.written?, ∀ id, P (.ofStation id now s)) {db : Database} (h : db.Holds P) :
    (handle now op db).2.Holds P := by
  obtain ⟨t, u, rfl, hrows⟩ := h
  cases op with
  | insert s => exact ⟨_, _, rfl, insertStation_forall (hop s rfl) hrows⟩
  | update s => exact ⟨_, _, rfl, updateRows_forall (hop s rfl) hrows⟩
  | delete id => exact ⟨_, _, rfl, fun r hr => hrows r (List.mem_filter.mp hr).1⟩
  | findById id => exact ⟨_, _, rfl, hrows⟩
  | findAll => exact ⟨_, _, rfl, hrows⟩
  | search text => exact ⟨_, _, rfl, hrows⟩
  | findAccount username => exact ⟨_, _, rfl, hrows⟩
  | createAccount username passwordHash => exact ⟨_, _, rfl, hrows⟩
  | countAccounts => exact ⟨_, _, rfl, hrows⟩

theorem holds_runCalls {ops : List StoreOp}
    (hops : ∀ op ∈ ops, ∀ s ∈ op.written?, ∀ id now, P (.ofStation id now s)) (clock : Clock) :
    (runCalls handle clock ops fresh).2.Holds P :=
  runCalls_preserves handle
    (fun op hop _ _ h => holds_handle (fun s hs id => hops op hop s hs id _) h) clock
    (holds_fresh P)

end Database

end ChargingRegister
