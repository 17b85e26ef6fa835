import ChargingRegister.Proofs.Listing.Completeness

/-!
# The pattern as an encoding

The matcher decides the reading of a pattern, in which every run of any characters is free to be
cut as it has to be. A comparison sees one character in the replacement character and in the two
code points behind it. Apart from that the pattern of a text finds just the keys that contain the
text's lowercase form, and a row without a location is found by its name alone.
-/
namespace ChargingRegister

namespace Like

/-- The text can be cut into parts for which the tokens stand, one after the other. -/
inductive Reads : List Token → List Char → Prop
  | done : Reads [] []
  | anyRun {ts : List Token} {cs : List Char} (run : List Char) (h : Reads ts cs) :
    Reads (.anyRun :: ts) (run ++ cs)
  | anyOne {ts : List Token} {cs : List Char} (c : Char) (h : Reads ts cs) :
    Reads (.anyOne :: ts) (c :: cs)
  | char {ts : List Token} {cs : List Char} {a c : Char} (hsame : sameChar a c = true)
    (h : Reads ts cs) : Reads (.char a :: ts) (c :: cs)

theorem Reads.of_matchTokens {ts : List Token} {cs : List Char} (h : matchTokens ts cs = true) :
    Reads ts cs := by
  fun_induction matchTokens ts cs with
  | case1 cs =>
    rw [List.isEmpty_iff.mp h]
    exact .done
  | case2 ts ih => exact .anyRun [] (ih h)
  | case3 ts c cs ihskip ihmore =>
    rcases (Bool.or_eq_true _ _).mp h with h | h
    · exact .anyRun [] (ihskip h)
    · cases ihmore h with
      | anyRun run hrest => exact .anyRun (c :: run) hrest
  | case4 => cases h
  | case5 ts c cs ih => exact .anyOne c (ih h)
  | case6 => cases h
  | case7 a ts c cs ih =>
    obtain ⟨hsame, hrest⟩ := (Bool.and_eq_true _ _).mp h
    exact .char hsame (ih hrest)

theorem Reads.matchTokens {ts : List Token} {cs : List Char} (h : Reads ts cs) :
    matchTokens ts cs = true := by
  induction h with
  | done => simp [Like.matchTokens]
  | @anyRun ts cs run _ ih =>
    induction run with
    | nil => cases cs <;> simp [Like.matchTokens, ih]
    | cons c run ihrun => simp [Like.matchTokens, ihrun]
  | anyOne c _ ih => simpa [Like.matchTokens] using ih
  | char hsame _ ih => simp [Like.matchTokens, hsame, ih]

theorem matchTokens_iff_reads {ts : List Token} {cs : List Char} :
    matchTokens ts cs = true ↔ Reads ts cs :=
  ⟨.of_matchTokens, Reads.matchTokens⟩

theorem matches?_iff_reads {pattern text : List Char} (hpattern : '\x00' ∉ pattern)
    (htext : '\x00' ∉ text) : matches? pattern text = true ↔ Reads (tokens pattern) text := by
  rw [matches?, untilNull_eq_self hpattern, untilNull_eq_self htext, matchTokens_iff_reads]

/-- The replacement character and the two code points behind it. -/
def Merged (c : Char) : Prop :=
  c = '\uFFFD' ∨ c = '\uFFFE' ∨ c = '\uFFFF'

instance (c : Char) : Decidable (Merged c) := inferInstanceAs (Decidable (_ ∨ _))

/-- What a comparison sees of a character that has no other case. -/
def merge (c : Char) : Char :=
  if c = '\uFFFE' ∨ c = '\uFFFF' then '\uFFFD' else c

theorem folded_of_toLower {c : Char} (h : c.toLower = c) : folded c = merge c := by
  rw [folded, merge, h]

theorem merge_eq_merge_iff {a c : Char} : merge a = merge c ↔ a = c ∨ (Merged a ∧ Merged c) := by
  unfold merge Merged
  split <;> split <;> grind

theorem Merged.mem_of_mem_lowercase {c : Char} (h : Merged c) {s : String}
    (hc : c ∈ (Text.lowercase s).toList) : c ∈ s.toList := by
  have hunsettled : ¬ Text.Settled c := by rcases h with rfl | rfl | rfl <;> decide
  rw [Text.toList_lowercase] at hc
  exact Text.mem_of_mem_lowered hc hunsettled

theorem map_folded_lowercase_eq (s : String) :
    (Text.lowercase s).toList.map folded = (Text.lowercase s).toList.map merge :=
  List.map_congr_left fun _ hc =>
    folded_of_toLower (Text.toLower_of_mem_lowered (Text.toList_lowercase s ▸ hc))

end Like

section

variable {α β : Type} {f : α → β}

theorem eq_of_map_eq_map {l m : List α} (hinj : ∀ a ∈ l, ∀ c ∈ m, f a = f c → a = c)
    (h : l.map f = m.map f) : l = m := by
  induction l generalizing m with
  | nil => exact (List.map_eq_nil_iff.mp h.symm).symm
  | cons a l ih =>
    cases m with
    | nil => cases h
    | cons c m =>
      obtain ⟨hhead, htail⟩ := List.cons_eq_cons.mp h
      have hac := hinj a List.mem_cons_self c List.mem_cons_self hhead
      have hlm := ih (fun x hx y hy => hinj x (.tail _ hx) y (.tail _ hy)) htail
      rw [hac, hlm]

/-- A map that tells the characters of two texts apart loses no occurrence and adds none. -/
theorem map_infix_map_iff {l m : List α} (hinj : ∀ a ∈ l, ∀ c ∈ m, f a = f c → a = c) :
    l.map f <:+: m.map f ↔ l <:+: m := by
  refine ⟨fun h => ?_, fun h => h.map f⟩
  obtain ⟨found, hfound, hsame⟩ := List.infix_map_iff.mp h
  have hl : l = found := eq_of_map_eq_map
    (fun a ha c hc => hinj a ha c (hfound.subset hc)) hsame
  rwa [hl]

end

theorem Database.searchRows_nameless {text : String} (hfits : Fits text) {rows : List StationRow}
    (hkept : ∀ r ∈ rows, r.Kept) :
    ∃ found, searchRows text rows = .ok found ∧
      ∀ r ∈ rows, r.locationKey = none →
        (r.station ∈ found ↔ Like.matches? (searchPattern text) r.nameKey.toList = true) := by
  refine ⟨_, searchRows_of_fits hkept hfits, fun r hr hnone => ?_⟩
  have hname : r.likeText (searchPattern text) =
      Like.matches? (searchPattern text) r.nameKey.toList := by
    rw [StationRow.likeText, hnone, Option.any_none, Bool.or_false]
  rw [listed, List.mem_mergeSort, List.mem_map, ← hname]
  refine ⟨?_, fun hlike => ⟨r, List.mem_filter.mpr ⟨hr, hlike⟩, rfl⟩⟩
  rintro ⟨r', hr', hsame⟩
  obtain ⟨hmem, hlike⟩ := List.mem_filter.mp hr'
  -- The pattern looks at nothing that the station does not show.
  rw [(hkept r hr).likeText_eq, ← hsame, ← (hkept r' hmem).likeText_eq]
  exact hlike

/-- A pattern is read as its tokens say. It finds a key just when the key contains the lowercase
form of the text, up to the characters that a comparison takes for one; and so exactly, unless the
text holds one of these and the key another. -/
theorem pattern_encodes_text {text key : String} (htext : '\x00' ∉ text.toList)
    (hkey : '\x00' ∉ key.toList) (hfits : Database.Fits text) :
    let pattern := Database.searchPattern text
    let k := (Text.lowercase key).toList
    let found := Like.matches? pattern k = true
    (found ↔ Like.Reads (Like.tokens pattern) k) ∧
      (found ↔ (Text.lowercase text).toList.map Like.merge <:+: k.map Like.merge) ∧
      ((∀ a ∈ text.toList, ∀ c ∈ key.toList, Like.Merged a → Like.Merged c → a = c) →
        (found ↔ (Text.lowercase text).toList <:+: k)) ∧
      ∀ rows : List StationRow, (∀ r ∈ rows, r.Kept) →
        ∃ stations, Database.searchRows text rows = .ok stations ∧
          ∀ r ∈ rows, r.locationKey = none →
            (r.station ∈ stations ↔ Like.matches? pattern r.nameKey.toList = true) := by
  intro pattern k found
  have hneedle := Text.null_notMem_lowercase htext
  have hk := Text.null_notMem_lowercase hkey
  have hmerged : found ↔ (Text.lowercase text).toList.map Like.merge <:+: k.map Like.merge := by
    show Like.matches? (Like.containing _) k = true ↔ _
    rw [Like.matches?_containing hneedle hk, Text.occurs_iff, Like.map_folded_lowercase_eq,
      Like.map_folded_lowercase_eq]
  refine ⟨Like.matches?_iff_reads (Like.not_mem_containing hneedle) hk, hmerged,
    fun happart => ?_, fun rows hkept => Database.searchRows_nameless hfits hkept⟩
  rw [hmerged]
  refine map_infix_map_iff fun a ha c hc hsame => ?_
  rcases Like.merge_eq_merge_iff.mp hsame with heq | ⟨hma, hmc⟩
  · exact heq
  · exact happart a (hma.mem_of_mem_lowercase ha) c (hmc.mem_of_mem_lowercase hc) hma hmc

/-- All that a pattern would not take literally, at both ends and next to each other. -/
theorem pattern_encodes_wildcards :
    ('\x00' ∉ "%_\\\\Ö_%".toList ∧ '\x00' ∉ "\uFFFE%_\\\\ö_%".toList ∧
        Database.Fits "%_\\\\Ö_%") ∧
      (Like.matches? (Database.searchPattern "%_\\\\Ö_%")
          (Text.lowercase "\uFFFE%_\\\\ö_%").toList = true ↔
        (Text.lowercase "%_\\\\Ö_%").toList <:+: (Text.lowercase "\uFFFE%_\\\\ö_%").toList) := by
  have hnone : ∀ a ∈ "%_\\\\Ö_%".toList, (!decide (Like.Merged a)) = true :=
    List.all_eq_true.mp (by decide)
  refine ⟨by decide +kernel, (pattern_encodes_text (by decide) (by decide) (by decide +kernel)).2.2.1
    fun a ha _ _ hmerged _ => ?_⟩
  have hnot := hnone a ha
  rw [decide_eq_true hmerged] at hnot
  cases hnot

/-- Neither of the last two code points of the basic plane contains the other. -/
theorem pattern_merges_last_code_points :
    '\x00' ∉ "\uFFFF".toList ∧ '\x00' ∉ "\uFFFE".toList ∧ Database.Fits "\uFFFF" ∧
      Like.matches? (Database.searchPattern "\uFFFF") (Text.lowercase "\uFFFE").toList = true ∧
      ¬ (Text.lowercase "\uFFFF").toList <:+: (Text.lowercase "\uFFFE").toList := by
  refine ⟨by decide, by decide, ?_, ?_, ?_⟩ <;> decide +kernel

end ChargingRegister
