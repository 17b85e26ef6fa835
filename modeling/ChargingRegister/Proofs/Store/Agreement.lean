import ChargingRegister.Proofs.Store.Refinement

/-!
# Both kinds of store answer alike

New stores of both kinds answer any operations with the same numbers, records, orders and
refusals, apart from the times, as long as each table has a number for every row to come. A search
is the exception where a text ends or is folded before it ends for the database, or where its
pattern is too long: each of these sets the stores apart.
-/
namespace ChargingRegister

open StoreOp (Comparable count)

theorem Database.readyFor_fresh {ops : List StoreOp} (h : Comparable ops)
    (hstations : count .insert ops ≤ Table.maxNumber)
    (haccounts : count .createAccount ops ≤ Table.maxNumber) : fresh.ReadyFor ops where
  kept := holds_fresh _
  plain := fun _ => holds_fresh _
  comparable := h
  stations := by
    show 0 + 1 + count .insert ops ≤ _
    omega
  accounts := by
    show 0 + 1 + count .createAccount ops ≤ _
    omega

/-- New stores under two clocks give the same answers and come to hold the same, and the rows of
the database are all as a write puts them. -/
theorem stores_answer_alike (ops : List StoreOp) (h : Comparable ops)
    (hstations : count .insert ops ≤ Table.maxNumber)
    (haccounts : count .createAccount ops ≤ Table.maxNumber) (clock clock' : Clock) :
    (runCalls MemoryStore.handle clock ops .empty).1.map StoreAnswer.timeless =
        (runCalls Database.handle clock' ops .fresh).1.map StoreAnswer.timeless ∧
      (runCalls Database.handle clock' ops .fresh).2.Holds StationRow.Kept ∧
      (runCalls Database.handle clock' ops .fresh).2.view.timeless =
        (runCalls MemoryStore.handle clock ops .empty).2.timeless := by
  have hready := Database.readyFor_fresh h hstations haccounts
  obtain ⟨hreplies, hview⟩ := Database.runCalls_view hready clock'
  obtain ⟨htimes, hend⟩ :=
    MemoryStore.runCalls_timeless clock clock' ops (Eq.refl MemoryStore.empty.timeless)
  refine ⟨?_, ?_, ?_⟩
  · rw [hreplies, Database.view_fresh]
    exact htimes
  · exact Database.holds_runCalls (fun _ _ s _ id now => StationRow.kept_ofStation id now s) clock'
  · rw [hview, Database.view_fresh]
    exact hend.symm

theorem stores_answer_alike_about_escapes :
    (runCalls MemoryStore.handle (fun n => .ofEpoch n 0)
        [.insert ⟨-7, "100%_Öko", some "Straße\\1", .charging, none⟩, .createAccount "a" "",
          .createAccount "a" "", .search "%_ö", .search "E\\1", .delete 1, .findAll]
        .empty).1.map StoreAnswer.timeless =
      (runCalls Database.handle (fun n => .ofEpoch (9 * n) 1)
        [.insert ⟨-7, "100%_Öko", some "Straße\\1", .charging, none⟩, .createAccount "a" "",
          .createAccount "a" "", .search "%_ö", .search "E\\1", .delete 1, .findAll]
        .fresh).1.map StoreAnswer.timeless :=
  (stores_answer_alike _ (by decide +kernel) (by decide) (by decide) _ _).1

/-- The stores answer the operations differently, whatever their clocks show. -/
def AnsweredApart (ops : List StoreOp) : Prop :=
  ∀ clock clock' : Clock,
    (runCalls MemoryStore.handle clock ops .empty).1.map StoreAnswer.timeless ≠
      (runCalls Database.handle clock' ops .fresh).1.map StoreAnswer.timeless

theorem map_length_timeless {text : String} (reply : StoreReply (.search text)) :
    (reply.map (StoreOp.search text).timeless).map List.length = reply.map List.length := by
  cases reply with
  | error e => rfl
  | ok found => exact congrArg Except.ok (List.length_map Station.timeless)

/-- After one record the stores part over a search that does not count it alike. -/
theorem answeredApart_of_search {s : Station} {text : String}
    (h : ∀ now, (Database.searchRows text [.ofStation 1 now s]).map List.length ≠
      .ok (if s.matchesText (Text.lowercase text) then 1 else 0)) :
    AnsweredApart [.insert s, .search text] := by
  intro clock clock' heq
  have hdatabase : ∀ (now : Instant) (t : Table StationRow) (u : Option (Table Account)),
      (Database.handle now (.search text) ⟨some t, u⟩).1 = Database.searchRows text t.rows :=
    fun _ _ _ => rfl
  have hmemory : ∀ now now' : Instant,
      ((MemoryStore.handle now (.search text) (MemoryStore.handle now' (.insert s) .empty).2).1.map
        List.length) = .ok (if s.matchesText (Text.lowercase text) then 1 else 0) := by
    intro now now'
    show Except.ok (listed
      (List.filter _ [{ s with id := 1, lastUpdated := some now' }])).length = _
    rw [listed, List.length_mergeSort, ← List.countP_eq_length_filter, List.countP_singleton]
    rfl
  simp only [runCalls_cons, runCalls_nil, Database.handle_insert_fresh, List.map_cons,
    List.map_nil, StoreAnswer.timeless, List.cons.injEq, Sigma.mk.injEq, heq_eq_eq, true_and,
    and_true] at heq
  have hcounts := congrArg (Except.map List.length) heq.2
  rw [map_length_timeless, map_length_timeless, hmemory, hdatabase] at hcounts
  exact h (clock' 0) hcounts.symm

theorem answeredApart_of_tooLong (s : Station) {text : String}
    (h : Like.maxPatternBytes < (String.ofList (Database.searchPattern text)).utf8ByteSize) :
    AnsweredApart [.insert s, .search text] := by
  refine answeredApart_of_search fun now => ?_
  rw [Database.map_length_searchRows (StationRow.kept_ofStation 1 now s), if_pos h]
  exact nofun

theorem answeredApart_of_likeText {s : Station} {text : String}
    (h : (StationRow.ofStation 1 (.ofEpoch 0 0) s).likeText (Database.searchPattern text) ≠
      s.matchesText (Text.lowercase text)) :
    AnsweredApart [.insert s, .search text] := by
  by_cases hlong : Like.maxPatternBytes <
      (String.ofList (Database.searchPattern text)).utf8ByteSize
  · exact answeredApart_of_tooLong s hlong
  · refine answeredApart_of_search fun now heq => h ?_
    rw [Database.map_length_searchRows (StationRow.kept_ofStation 1 now s), if_neg hlong] at heq
    have hcount := Except.ok.inj heq
    show (StationRow.ofStation 1 now s).likeText (Database.searchPattern text) = _
    rw [Bool.eq_iff_iff]
    constructor
    · intro hrow
      rw [if_pos hrow] at hcount
      exact Decidable.not_not.mp fun hs => by simp [hs] at hcount
    · intro hs
      rw [if_pos hs] at hcount
      exact Decidable.not_not.mp fun hrow => by simp [hrow] at hcount

theorem Database.maxPatternBytes_lt_of_length {text : String}
    (h : Like.maxPatternBytes ≤ text.toList.length) :
    Like.maxPatternBytes < (String.ofList (searchPattern text)).utf8ByteSize := by
  have hlower : text.toList.length ≤ (Text.lowercase text).toList.length := by
    rw [Text.toList_lowercase]
    exact Text.length_le_length_lowered [] text.toList
  have hpattern := Like.length_lt_length_containing (Text.lowercase text).toList
  have hbytes := Like.length_le_utf8ByteSize (searchPattern text)
  exact Nat.lt_of_le_of_lt (h.trans hlower) (Nat.lt_of_lt_of_le hpattern hbytes)

/-- What sets the stores apart: a code point that is folded, a text that ends early, and a pattern
that is too long. -/
theorem stores_apart :
    AnsweredApart [.insert (.draft "\uFFFE" none .available), .search "\uFFFF"] ∧
      AnsweredApart [.insert (.draft "a\x00b" none .available), .search "b"] ∧
      AnsweredApart [.insert (.draft "x" none .available),
        .search (String.ofList (List.replicate 50000 'x'))] := by
  refine ⟨?_, ?_, ?_⟩
  · exact answeredApart_of_likeText (by decide +kernel)
  · exact answeredApart_of_likeText (by decide +kernel)
  · apply answeredApart_of_tooLong
    apply Database.maxPatternBytes_lt_of_length
    rw [String.toList_ofList, List.length_replicate]
    exact Nat.le_refl _

end ChargingRegister
