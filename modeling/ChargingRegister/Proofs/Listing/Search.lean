import ChargingRegister.Console.Outcome
import ChargingRegister.Proofs.Store.Refinement

/-!
# Searching is filtering

A store of either kind replies to a search with what a filter leaves of its whole listing, and so
the two commands that narrow a listing by a text print the same. A database does so as long as the
text and what was written are compared as they are.
-/
namespace ChargingRegister

namespace Store

def stations : Store → List Station
  | .memory m => m.stations
  | .database db => db.view.stations

/-- All tables of a database are there, and every station's row has the property. -/
def Rows (P : StationRow → Prop) : Store → Prop
  | .memory _ => True
  | .database db => db.Holds P

/-- A database can compare the text with the texts in its rows as they are. -/
def Compares (text : String) : Store → Prop
  | .memory _ => True
  | .database db => Database.Searchable text ∧ db.Holds fun r => r.station.Plain

variable {s : Store}

theorem handle_findAll (h : s.Rows StationRow.Kept) (now : Instant) :
    handle now .findAll s = (.ok (listed s.stations), s) := by
  cases s with
  | memory m => rfl
  | database db =>
    obtain ⟨t, u, rfl, hkept⟩ := h
    exact Prod.ext (Database.listedRows_of_kept .findAll hkept) rfl

theorem handle_search (h : s.Rows StationRow.Kept) {text : String} (htext : s.Compares text)
    (now : Instant) :
    handle now (.search text) s =
      (.ok (listed (s.stations.filter (·.matchesText (Text.lowercase text)))), s) := by
  cases s with
  | memory m => rfl
  | database db =>
    obtain ⟨t, u, rfl, hkept⟩ := h
    obtain ⟨hsearchable, t', u', heq, hplain⟩ := htext
    cases heq
    exact Prod.ext (Database.searchRows_of_kept hkept hplain hsearchable) rfl

variable {P : StationRow → Prop} {start : Store} {ops : List StoreOp}

theorem rows_runCalls (hstart : start.IsNew)
    (hops : ∀ op ∈ ops, ∀ s ∈ op.written?, ∀ id now, P (.ofStation id now s)) (clock : Clock) :
    (runCalls handle clock ops start).2.Rows P := by
  rcases hstart with rfl | rfl
  · rw [runCalls_memory]
    trivial
  · rw [runCalls_database]
    exact Database.holds_runCalls hops clock

theorem kept_runCalls (hstart : start.IsNew) (ops : List StoreOp) (clock : Clock) :
    (runCalls handle clock ops start).2.Rows StationRow.Kept :=
  rows_runCalls hstart (fun _ _ s _ id now => StationRow.kept_ofStation id now s) clock

theorem compares_runCalls (hstart : start.IsNew) {text : String}
    (htexts : start = .database .fresh →
      (∀ op ∈ ops, ∀ s ∈ op.written?, s.Plain) ∧ Database.Searchable text) (clock : Clock) :
    (runCalls handle clock ops start).2.Compares text := by
  rcases hstart with rfl | rfl
  · rw [runCalls_memory]
    trivial
  · obtain ⟨hplain, hsearchable⟩ := htexts rfl
    rw [runCalls_database]
    refine ⟨hsearchable, Database.holds_runCalls (fun op hop s hs id now => ?_) clock⟩
    rw [StationRow.station_ofStation]
    exact hplain op hop s hs

end Store

theorem Filter.apply_make_none (text : String) (stations : List Station) :
    (Filter.make text none).apply stations =
      stations.filter (·.matchesText (Text.lowercase (Text.trim text))) := by
  apply List.filter_congr
  intro s _
  have hempty : (Text.lowercase (Text.trim text)).isEmpty = true →
      s.matchesText (Text.lowercase (Text.trim text)) = true := by
    intro h
    rw [String.isEmpty_iff.mp h, Station.matchesText]
    simp
  rw [Filter.keeps, Filter.make]
  simpa using hempty

theorem Filter.apply_make_of_blank {text : String} (h : Text.blank text = true)
    (stations : List Station) : (Filter.make text none).apply stations = stations := by
  have hneedle : (Text.lowercase (Text.trim text)).toList = [] := by
    rw [Text.toList_lowercase, Text.lowered_eq_nil]
    exact List.isEmpty_iff.mp h
  rw [apply_make_none, List.filter_eq_self]
  intro s _
  rw [Station.matchesText, hneedle, Text.occurs_nil]
  rfl

theorem Command.execute_of_reads {c : Command} (h : c.writes? = none) (session : Session) :
    c.execute session = c.perform := by
  rw [execute, gate, h]

section

variable {s : Store} (h : s.Rows StationRow.Kept) (now : Instant)
include h

theorem Registry.findAll_run : findAll.run (Store.handle now) s = (listed s.stations, s) := by
  rw [findAll, Program.run_call, Store.handle_findAll h]
  rfl

theorem Registry.search_run {text : String} (htext : s.Compares (Text.trim text)) :
    (search text).run (Store.handle now) s =
      ((Filter.make text none).apply (listed s.stations), s) := by
  by_cases hblank : Text.blank text = true
  · rw [search, if_pos hblank, findAll_run h, Filter.apply_make_of_blank hblank]
  · rw [search, if_neg hblank, Program.run_call, Store.handle_search h htext,
      Filter.apply_make_none, filter_listed]
    rfl

theorem Command.execute_list_run (session : Session) (text : String) (status : Option Status) :
    ((Command.list text status).execute session).run (Store.handle now) s =
      (.ok (.stations ((Filter.make text status).apply (listed s.stations))
        (listed s.stations).length), s) := by
  rw [execute_of_reads rfl, perform, Program.run_bind, Snapshot.loadAll, Program.run_bind,
    Registry.findAll_run h]
  rfl

theorem Command.execute_search_run (session : Session) {text : String}
    (htext : s.Compares (Text.trim text)) :
    ((Command.search text).execute session).run (Store.handle now) s =
      (.ok (.stations ((Filter.make text none).apply (listed s.stations))
        ((Filter.make text none).apply (listed s.stations)).length), s) := by
  rw [execute_of_reads rfl, perform, Program.run_bind, Registry.search_run h now htext]
  rfl

end

/-- In every store that operations can produce, the register finds by a text what the filter
keeps of the listing, in the same order, and the console prints the same for both. -/
theorem search_eq_filter {start : Store} (hstart : start.IsNew) (ops : List StoreOp) (text : String)
    (htexts : start = .database .fresh →
      (∀ op ∈ ops, ∀ s ∈ op.written?, s.Plain) ∧ Database.Searchable (Text.trim text))
    (clock : Clock) (now : Instant) (session : Session) :
    let s := (runCalls Store.handle clock ops start).2
    let all := (Registry.findAll.run (Store.handle now) s).1
    let found := ((Registry.search text).run (Store.handle now) s).1
    let listing := (((Command.list text none).execute session).run (Store.handle now) s).1
    let hits := (((Command.search text).execute session).run (Store.handle now) s).1
    all = listed s.stations ∧
      found = (Filter.make text none).apply all ∧
      (Text.blank text = true → found = all) ∧
      Console.Outcome.ofResult .json listing = Console.Outcome.ofResult .json hits := by
  intro s all found listing hits
  have hkept : s.Rows StationRow.Kept :=
    Store.rows_runCalls hstart (fun _ _ s _ id now => StationRow.kept_ofStation id now s) clock
  have hcompares : s.Compares (Text.trim text) := Store.compares_runCalls hstart htexts clock
  have hall : all = listed s.stations := congrArg Prod.fst (Registry.findAll_run hkept now)
  have hfound : found = (Filter.make text none).apply (listed s.stations) :=
    congrArg Prod.fst (Registry.search_run hkept now hcompares)
  have hlisting := congrArg Prod.fst (Command.execute_list_run hkept now session text none)
  have hhits := congrArg Prod.fst (Command.execute_search_run hkept now session hcompares)
  refine ⟨hall, hfound.trans (congrArg _ hall.symm), fun hblank => ?_, ?_⟩
  · rw [hfound, Filter.apply_make_of_blank hblank, hall]
  · rw [show listing = _ from hlisting, show hits = _ from hhits]
    rfl

theorem search_eq_filter_about_escapes :
    let s := (runCalls Store.handle (fun n => .ofEpoch n 0)
      [.insert (.draft "ÖKO 100%_ÖSt" none .charging),
        .insert (.draft "b" (some "Gasse %_ö\\") .available), .update ⟨2, "c", none, .available, none⟩]
      (.database .fresh)).2
    ((Registry.search "\u2003%_ö ").run (Store.handle (.ofEpoch 9 0)) s).1 =
      (Filter.make "\u2003%_ö " none).apply
        (Registry.findAll.run (Store.handle (.ofEpoch 9 0)) s).1 :=
  (search_eq_filter (.inr rfl) _ _ (fun _ => ⟨by decide +kernel, by decide +kernel⟩) _ _
    (.guest ⟨.ofRandom 0, .ofEpoch 0 0⟩)).2.1

/-- The database takes the last two code points of the basic plane for one and the same. -/
theorem search_ne_filter_of_folded :
    let s := (runCalls Store.handle (fun n => .ofEpoch n 0)
      [.insert (.draft "\uFFFE" none .available)] (.database .fresh)).2
    ((Registry.search "\uFFFF").run (Store.handle (.ofEpoch 9 0)) s).1 ≠
      (Filter.make "\uFFFF" none).apply
        (Registry.findAll.run (Store.handle (.ofEpoch 9 0)) s).1 := by
  intro s heq
  set row := StationRow.ofStation 1 (.ofEpoch 0 0) (.draft "\uFFFE" none .available)
  have hs : s = .database ⟨some ⟨[row], 1⟩, some .empty⟩ := by
    show (runCalls _ _ _ _).2 = _
    rw [Store.runCalls_database, runCalls_cons, Database.handle_insert_fresh]
    rfl
  have hrow : row.Kept := StationRow.kept_ofStation _ _ _
  have htrim : Text.trim "\uFFFF" = "\uFFFF" := by decide +kernel
  have hreply : (Database.searchRows "\uFFFF" [row]).map List.length = .ok 1 := by
    have hlike : row.likeText (Database.searchPattern "\uFFFF") = true := by decide +kernel
    rw [Database.map_length_searchRows hrow, if_neg (by decide +kernel), if_pos hlike]
  have hcall : ∀ now, (Store.handle now (.search "\uFFFF") s).1 =
      Database.searchRows "\uFFFF" [row] := fun _ => hs ▸ rfl
  have hfound : ((Registry.search "\uFFFF").run (Store.handle (.ofEpoch 9 0)) s).1.length = 1 := by
    rw [Registry.search, if_neg (by decide +kernel), htrim, Program.run_call, hcall,
      Program.run_done]
    cases hrows : Database.searchRows "\uFFFF" [row] with
    | error e => simp [hrows, Except.map] at hreply
    | ok found =>
      rw [hrows] at hreply
      exact Except.ok.inj hreply
  have hkept : s.Rows StationRow.Kept :=
    hs ▸ ⟨_, _, rfl, fun r hr => List.mem_singleton.mp hr ▸ hrow⟩
  have hall := Registry.findAll_run hkept (.ofEpoch 9 0)
  have hnone : (Filter.make "\uFFFF" none).apply (listed s.stations) = [] := by
    have hmiss : ¬ row.station.matchesText (Text.lowercase "\uFFFF") = true := by decide +kernel
    rw [Filter.apply_make_none, filter_listed, hs, htrim]
    show listed (List.filter _ [row.station]) = []
    rw [List.filter_cons_of_neg hmiss, List.filter_nil, listed, List.mergeSort_nil]
  rw [heq, hall, hnone] at hfound
  cases hfound

end ChargingRegister
