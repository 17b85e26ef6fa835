import ChargingRegister.Proofs.Registry.Request
import ChargingRegister.Proofs.Store.Lookup
import ChargingRegister.Proofs.Store.View

/-!
# The register as a directory

A directory maps numbers to entries and counts the records that were ever created; the count is the
last number given out. Calls for one record are answered from it alone. The register over a healthy
new store of either kind gives the same answers through every run, times included, under any clock.
-/
namespace ChargingRegister

structure Entry where
  name : String
  location : Option String
  status : Status
  /-- The time of the last write. -/
  written : Instant
  named : Text.blank name = false

namespace Entry

/-- The number and the time that the caller put into the record do not count. -/
def ofStation (s : Station) (named : Text.blank s.name = false) (now : Instant) : Entry :=
  ⟨s.name, s.location, s.status, now, named⟩

def station (e : Entry) (id : Int) : Station :=
  ⟨id, e.name, e.location, e.status, some e.written⟩

end Entry

structure Directory where
  created : Nat
  entry : Int → Option Entry
  given : ∀ id, (entry id).isSome → 0 < id ∧ id ≤ created

namespace Directory

def empty : Directory where
  created := 0
  entry := fun _ => none
  given := nofun

def add (d : Directory) (e : Entry) : Directory where
  created := d.created + 1
  entry id := if id = d.created + 1 then some e else d.entry id
  given id h := by
    split at h
    case isTrue hid => omega
    case isFalse => have := d.given id h; omega

def replace (d : Directory) (id : Int) (e : Entry) : Directory where
  created := d.created
  entry id' := if id' = id then (d.entry id).map fun _ => e else d.entry id'
  given id' h := by
    split at h
    case isTrue hid => exact d.given id' (by simpa [hid] using h)
    case isFalse => exact d.given id' h

def remove (d : Directory) (id : Int) : Directory where
  created := d.created
  entry id' := if id' = id then none else d.entry id'
  given id' h := by
    split at h
    case isTrue => cases h
    case isFalse => exact d.given id' h

section

variable (d : Directory) (id : Int)

theorem entry_of_nonpos {id : Int} (h : id ≤ 0) : d.entry id = none := by
  rw [← Option.not_isSome_iff_eq_none]
  intro hsome
  have hgiven := d.given id hsome
  omega

theorem entry_next : d.entry (d.created + 1) = none := by
  rw [← Option.not_isSome_iff_eq_none]
  intro hsome
  have hgiven := d.given _ hsome
  omega

theorem entry_add (e : Entry) :
    (d.add e).entry id = if id = d.created + 1 then some e else d.entry id := rfl

theorem entry_replace (replaced : Int) (e : Entry) :
    (d.replace replaced e).entry id =
      if id = replaced then (d.entry replaced).map fun _ => e else d.entry id := rfl

theorem entry_remove (removed : Int) :
    (d.remove removed).entry id = if id = removed then none else d.entry id := rfl

end

open Registry in
/-- The answer to a call for a record, and the directory afterwards. -/
def answer (now : Instant) : (c : RecordCall) → Directory → Result c.Value × Directory
  | .create s, d =>
    if named : Text.blank s.name = false then
      let e := Entry.ofStation s named now
      (.ok (e.station (d.created + 1)), d.add e)
    else (.error (blankName "create"), d)
  | .update s, d =>
    if s.id ≤ 0 then (.error (badId "update" s.id), d)
    else if named : Text.blank s.name = false then
      (.ok (d.entry s.id).isSome, d.replace s.id (.ofStation s named now))
    else (.error (blankName "update"), d)
  | .updateStatus id status, d =>
    if id ≤ 0 then (.error (badId "update_status" id), d)
    else match d.entry id with
      | none => (.error (notFound id), d)
      | some e => (.ok true, d.replace id { e with status, written := now })
  | .delete id, d =>
    if id ≤ 0 then (.error (badId "delete" id), d)
    else (.ok (d.entry id).isSome, d.remove id)
  | .find id, d => (.ok ((d.entry id).map (·.station id)), d)

end Directory

namespace MemoryStore

/-- The store holds the entries of the directory under their numbers, and gives out the same
number next. -/
structure Shows (m : MemoryStore) (d : Directory) : Prop where
  next : m.nextStation = d.created + 1
  lookup : ∀ id, m.lookup id = (d.entry id).map (·.station id)

theorem shows_empty : empty.Shows .empty where
  next := rfl
  lookup := fun _ => rfl

variable {m : MemoryStore} {d : Directory} (h : m.Shows d)
include h

theorem Shows.insert (now : Instant) {s : Station} (named : Text.blank s.name = false) :
    (handle now (.insert s) m).1 = .ok ((Entry.ofStation s named now).station (d.created + 1)) ∧
      (handle now (.insert s) m).2.Shows (d.add (.ofStation s named now)) := by
  have hfresh : m.lookup m.nextStation = none := by
    rw [h.lookup, h.next, d.entry_next]
    rfl
  refine ⟨?_, ?_, fun id => ?_⟩
  · rw [← h.next]
    rfl
  · show m.nextStation + 1 = (d.created + 1 : Nat) + 1
    rw [h.next]
    rfl
  · rw [lookup_insert hfresh, h.lookup, h.next, Directory.entry_add]
    split
    case isTrue hid => rw [hid]; rfl
    case isFalse => rfl

theorem Shows.update (now : Instant) {s : Station} (named : Text.blank s.name = false) :
    (handle now (.update s) m).1 = .ok (d.entry s.id).isSome ∧
      (handle now (.update s) m).2.Shows (d.replace s.id (.ofStation s named now)) := by
  refine ⟨?_, h.next, fun id => ?_⟩
  · rw [handle_update, h.lookup, Option.isSome_map]
  · rw [lookup_update, h.lookup, Directory.entry_replace]
    split
    case isTrue hid => subst hid; cases d.entry s.id <;> rfl
    case isFalse => rfl

theorem Shows.delete (now : Instant) (id : Int) :
    (handle now (.delete id) m).1 = .ok (d.entry id).isSome ∧
      (handle now (.delete id) m).2.Shows (d.remove id) := by
  refine ⟨?_, h.next, fun id' => ?_⟩
  · rw [handle_delete, h.lookup, Option.isSome_map]
  · rw [lookup_delete, h.lookup, Directory.entry_remove]
    split <;> rfl

open Registry in
/-- One call: the answer of the directory, and again a store that holds its entries. -/
theorem Shows.answer (now : Instant) (c : RecordCall) :
    (c.program.run (handle now) m).1 = (Directory.answer now c d).1 ∧
      (c.program.run (handle now) m).2.Shows (Directory.answer now c d).2 := by
  cases c with
  | create s =>
    rw [RecordCall.program, Directory.answer]
    by_cases named : Text.blank s.name = false
    · rw [create_of_named named, dif_pos named]
      exact h.insert now named
    · rw [create_of_blank (Bool.eq_true_of_not_eq_false named), dif_neg named]
      exact ⟨rfl, h⟩
  | update s =>
    rw [RecordCall.program, Directory.answer]
    by_cases hid : s.id ≤ 0
    · rw [update_of_nonpos hid, if_pos hid]
      exact ⟨rfl, h⟩
    · rw [if_neg hid]
      by_cases named : Text.blank s.name = false
      · rw [update_of_named (Int.not_le.mp hid) named, dif_pos named]
        exact h.update now named
      · rw [update_of_blank (Int.not_le.mp hid) (Bool.eq_true_of_not_eq_false named),
          dif_neg named]
        exact ⟨rfl, h⟩
  | updateStatus id status =>
    rw [RecordCall.program, Directory.answer]
    by_cases hid : id ≤ 0
    · rw [updateStatus_of_nonpos hid, if_pos hid]
      exact ⟨rfl, h⟩
    · rw [updateStatus_of_pos (Int.not_le.mp hid), if_neg hid, Program.run_call, handle_findById,
        h.lookup]
      cases hentry : d.entry id with
      | none => exact ⟨rfl, h⟩
      | some e =>
        -- the entry has a name, so the register writes the record back
        have hwrite : Registry.update { e.station id with status } = .perform (.update _) :=
          update_of_named (Int.not_le.mp hid) e.named
        obtain ⟨hreply, hshows⟩ := h.update now (s := { e.station id with status }) e.named
        have hlive : (d.entry (e.station id).id).isSome = true := Option.isSome_of_eq_some hentry
        rw [Option.map_some, writeBack_some, hwrite]
        exact ⟨hreply.trans (congrArg Except.ok hlive), hshows⟩
  | delete id =>
    rw [RecordCall.program, Directory.answer]
    by_cases hid : id ≤ 0
    · rw [delete_of_nonpos hid, if_pos hid]
      exact ⟨rfl, h⟩
    · rw [delete_of_pos (Int.not_le.mp hid), if_neg hid]
      exact h.delete now id
  | find id =>
    rw [RecordCall.program, Directory.answer]
    by_cases hid : id ≤ 0
    · rw [find_of_nonpos hid, d.entry_of_nonpos hid]
      exact ⟨rfl, h⟩
    · rw [find_of_pos (Int.not_le.mp hid)]
      exact ⟨congrArg Except.ok (h.lookup id), h⟩

end MemoryStore

namespace Registry

theorem created_answer (now : Instant) (c : RecordCall) (d : Directory) :
    (Directory.answer now c d).2.created = d.created + if c.creates then 1 else 0 := by
  cases c with
  | create s =>
    rw [Directory.answer, RecordCall.creates]
    by_cases named : Text.blank s.name = false
    · rw [dif_pos named, named]
      rfl
    · rw [dif_neg named, Bool.eq_true_of_not_eq_false named]
      rfl
  | update s =>
    rw [Directory.answer]
    split
    · rfl
    · split <;> rfl
  | updateStatus id status =>
    rw [Directory.answer]
    split
    · rfl
    · split <;> rfl
  | delete id =>
    rw [Directory.answer]
    split <;> rfl
  | find id => rfl

/-- How many records the calls add, when they are carried out. -/
def creations (calls : List RecordCall) : Nat :=
  calls.countP RecordCall.creates

theorem creations_cons (c : RecordCall) (calls : List RecordCall) :
    creations (c :: calls) = creations calls + if c.creates then 1 else 0 :=
  List.countP_cons

def serve (now : Instant) (c : RecordCall) (s : Store) : Result c.Value × Store :=
  c.program.run (Store.handle now) s

def answers {σ : Type} (answer : Instant → (c : RecordCall) → σ → Result c.Value × σ)
    (clock : Clock) : List RecordCall → σ → List ((c : RecordCall) × Result c.Value)
  | [], _ => []
  | c :: calls, s =>
    let after := answer (clock 0) c s
    ⟨c, after.1⟩ :: answers answer clock.tail calls after.2

variable {s : Store}

/-- A number that is given out is new, and no greater than the number of records ever added. -/
theorem number_of_created {clock : Clock} {calls : List RecordCall} {d : Directory}
    {station r : Station}
    (h : ⟨.create station, .ok r⟩ ∈ answers Directory.answer clock calls d) :
    d.created < r.id ∧ r.id ≤ d.created + creations calls := by
  induction calls generalizing d clock with
  | nil => cases h
  | cons c calls ih =>
    rw [creations_cons]
    rcases List.mem_cons.mp h with hfirst | hrest
    · obtain ⟨rfl, hanswer⟩ := Sigma.mk.inj hfirst
      have hcreated := eq_of_heq hanswer
      rw [Directory.answer] at hcreated
      by_cases named : Text.blank station.name = false
      · rw [dif_pos named] at hcreated
        obtain rfl := Except.ok.inj hcreated
        have hcreates : (RecordCall.create station).creates = true := by
          rw [RecordCall.creates, named]
          rfl
        rw [if_pos hcreates]
        show (d.created : Int) < d.created + 1 ∧ (d.created + 1 : Int) ≤ _
        omega
      · rw [dif_neg named] at hcreated
        cases hcreated
    · have hnumber := ih hrest
      rw [created_answer] at hnumber
      omega

/-- A call at a store with a number left is a call at the store in memory that it shows. -/
theorem serve_view (h : s.Rows StationRow.Kept) {c : RecordCall}
    (hroom : c.creates = true → ∀ station, s.Ready (.insert station)) (now : Instant) :
    (serve now c s).1 = (c.program.run (MemoryStore.handle now) s.view).1 ∧
      (serve now c s).2.view = (c.program.run (MemoryStore.handle now) s.view).2 := by
  have hlegible : s.Rows StationRow.Legible := h.mono fun _ hr => hr.legible
  cases c with
  | create station =>
    rcases create_cases station with ⟨reason, heq⟩ | ⟨hname, heq⟩ <;>
      rw [serve, RecordCall.program, heq]
    · exact ⟨rfl, rfl⟩
    · have hcreates : (RecordCall.create station).creates = true := by
        rw [RecordCall.creates, hname]
        rfl
      exact Store.handle_view h (hroom hcreates station) now
  | update station => exact Store.run_view ((update_callsOnly station).mono (by decide)) hlegible now
  | updateStatus id status =>
    exact Store.run_view ((updateStatus_callsOnly id status).mono (by decide)) hlegible now
  | delete id => exact Store.run_view ((delete_callsOnly id).mono (by decide)) hlegible now
  | find id => exact Store.run_view ((find_callsOnly id).mono (by decide)) hlegible now

theorem rows_serve (h : s.Rows StationRow.Kept) (now : Instant) (c : RecordCall) :
    (serve now c s).2.Rows StationRow.Kept :=
  Program.run_preserves _ _ (fun a _ _ h' =>
    Store.rows_handle (fun s id => StationRow.kept_ofStation id now s) h' a.1) h

theorem isDatabase_serve (now : Instant) (c : RecordCall) (s : Store) :
    (serve now c s).2.isDatabase = s.isDatabase :=
  Program.run_preserves (P := fun s' : Store => s'.isDatabase = s.isDatabase) _ _
    (fun a _ s' h' => (Store.isDatabase_handle now a.1 s').trans h') rfl

/-- While there is a number for each record to come, the answers are those of the directory whose
entries the store holds. -/
theorem answers_eq_directory {d : Directory} (hrows : s.Rows StationRow.Kept)
    (hshows : s.view.Shows d) (calls : List RecordCall)
    (hroom : s.isDatabase = true → (d.created + creations calls : Int) ≤ Table.maxNumber)
    (clock : Clock) :
    answers serve clock calls s = answers Directory.answer clock calls d := by
  induction calls generalizing s d clock with
  | nil => rfl
  | cons c calls ih =>
    rw [creations_cons] at hroom
    -- the room is for this call and for those after it
    have hready : c.creates = true → ∀ station, s.Ready (.insert station) := by
      intro hcreates station
      cases s with
      | memory m => trivial
      | database db =>
        refine ⟨fun _ => ?_, nofun, nofun⟩
        have hnext : db.view.nextStation = d.created + 1 := hshows.next
        have hleft := hroom rfl
        rw [if_pos hcreates] at hleft
        omega
    obtain ⟨hreply, hview⟩ := serve_view hrows hready (clock 0)
    obtain ⟨hanswer, hnext⟩ := hshows.answer (clock 0) c
    rw [answers, answers, hreply.trans hanswer]
    refine congrArg _ (ih (rows_serve hrows _ c) (hview ▸ hnext) ?_ _)
    intro hdatabase
    have hroom' := hroom (isDatabase_serve (clock 0) c s ▸ hdatabase)
    rw [created_answer]
    omega

/-- The answers of the register over a new store of either kind are those of the directory: any
calls for records with any arguments, times included. A database is healthy as long as it has a
number for each record that is added. In a store of either kind a number that is given out is at
most the number of records added, so 64 bits hold it for `Table.maxNumber` of them. -/
theorem register_refines_directory {start : Store} (hstart : start.IsNew)
    (calls : List RecordCall)
    (hroom : start = .database .fresh → (creations calls : Int) ≤ Table.maxNumber)
    (clock : Clock) :
    answers serve clock calls start = answers Directory.answer clock calls .empty ∧
      ∀ station r : Station, ⟨.create station, .ok r⟩ ∈ answers serve clock calls start →
        0 < r.id ∧ r.id ≤ creations calls := by
  have hanswers : answers serve clock calls start =
      answers Directory.answer clock calls .empty := by
    rcases hstart with rfl | rfl
    · exact answers_eq_directory (s := .memory .empty) trivial MemoryStore.shows_empty calls
        (fun h => nomatch h) clock
    · refine answers_eq_directory (s := .database .fresh) (Database.holds_fresh _)
        MemoryStore.shows_empty calls (fun _ => ?_) clock
      have hleft := hroom rfl
      show ((0 : Nat) + creations calls : Int) ≤ _
      omega
  refine ⟨hanswers, fun station r h => ?_⟩
  rw [hanswers] at h
  obtain ⟨hnew, hcount⟩ := number_of_created h
  exact ⟨hnew, hcount.trans_eq (Int.zero_add _)⟩

theorem register_refines_directory_past_deletions :
    let calls := [.create ⟨9, "a", none, .available, none⟩, .delete 1,
      .update ⟨1, "a", some "x", .charging, none⟩, .create (.draft "b" (some "y") .available),
      .updateStatus 1 .charging, .updateStatus 2 .charging, .find 1, .find 2, .find 0]
    answers serve (fun n => .ofEpoch n 0) calls (.database .fresh) =
      answers Directory.answer (fun n => .ofEpoch n 0) calls .empty :=
  (register_refines_directory (.inr rfl) _ (fun _ => by decide +kernel) _).1

end Registry

end ChargingRegister
