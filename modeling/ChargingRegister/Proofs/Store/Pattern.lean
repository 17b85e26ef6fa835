import ChargingRegister.Proofs.Text.Lowercase
import ChargingRegister.Store.Like
import ChargingRegister.Station
import Mathlib.Data.List.TakeWhile

/-!
# The pattern of a searched text

A pattern made from a text without null characters matches exactly the texts that contain it, up
to what a comparison folds together. On lowercase forms nothing is folded but the two code points
at the end of the basic plane, so that for plain texts the pattern is an exact encoding.
-/
namespace ChargingRegister.Like

open Text

theorem tokens_cons_of_not_special {c : Char} (h : isSpecial c = false) (cs : List Char) :
    tokens (c :: cs) = .char c :: tokens cs := by
  simp only [isSpecial, Bool.or_eq_false_iff, beq_eq_false_iff_ne] at h
  obtain ⟨⟨hrun, hone⟩, hescape⟩ := h
  rw [tokens.eq_def]
  split <;> simp_all

/-- An escaped text is read back character by character. -/
theorem tokens_escaped_append (cs rest : List Char) :
    tokens (escaped cs ++ rest) = cs.map .char ++ tokens rest := by
  induction cs with
  | nil => rfl
  | cons c cs ih =>
    have hcons : escaped (c :: cs) = (if isSpecial c then ['\\', c] else [c]) ++ escaped cs := rfl
    rw [hcons, List.append_assoc, List.map_cons, List.cons_append, ← ih]
    split
    case isTrue => simp [tokens]
    case isFalse h => exact tokens_cons_of_not_special (by simpa using h) _

theorem tokens_containing (cs : List Char) :
    tokens (containing cs) = .anyRun :: (cs.map .char ++ [.anyRun]) := by
  have hlast : tokens ['%'] = [.anyRun] := rfl
  rw [← hlast, ← tokens_escaped_append]
  rfl

theorem matchTokens_anyRun_all (cs : List Char) : matchTokens [.anyRun] cs = true := by
  induction cs with
  | nil => simp [matchTokens]
  | cons c cs ih => simp [matchTokens, ih]

/-- Literal tokens before a run match what begins with them. -/
theorem matchTokens_chars (needle cs : List Char) :
    matchTokens (needle.map .char ++ [.anyRun]) cs =
      (needle.map folded).isPrefixOf (cs.map folded) := by
  induction needle generalizing cs with
  | nil => simp [matchTokens_anyRun_all]
  | cons a needle ih =>
    cases cs with
    | nil => simp [matchTokens]
    | cons c cs =>
      simp only [List.map_cons, List.cons_append, matchTokens, sameChar, ih]
      rfl

theorem matchTokens_anyRun (needle cs : List Char) :
    matchTokens (.anyRun :: (needle.map .char ++ [.anyRun])) cs =
      occurs (needle.map folded) (cs.map folded) := by
  induction cs with
  | nil =>
    rw [matchTokens, matchTokens_chars]
    cases needle <;> rfl
  | cons c cs ih => rw [matchTokens, matchTokens_chars, ih, List.map_cons, occurs]

theorem untilNull_eq_self {cs : List Char} (h : '\x00' ∉ cs) : untilNull cs = cs := by
  rw [untilNull, List.takeWhile_eq_self_iff]
  intro c hc
  simp only [bne_iff_ne, ne_eq]
  rintro rfl
  exact h hc

theorem not_mem_containing {cs : List Char} (h : '\x00' ∉ cs) : '\x00' ∉ containing cs := by
  simp only [containing, escaped, List.mem_cons, List.mem_append, List.mem_flatMap]
  rintro ((h' | ⟨c, hc, h'⟩) | h')
  · exact absurd h' (by decide)
  · split at h'
    case isTrue =>
      rw [List.mem_cons, List.mem_singleton] at h'
      rcases h' with h' | rfl
      · exact absurd h' (by decide)
      · exact h hc
    case isFalse =>
      rw [List.mem_singleton] at h'
      exact h (h' ▸ hc)
  · simp at h'

/-- The pattern of a text finds it, folded, in a folded text. -/
theorem matches?_containing {needle key : List Char} (hneedle : '\x00' ∉ needle)
    (hkey : '\x00' ∉ key) :
    matches? (containing needle) key = occurs (needle.map folded) (key.map folded) := by
  rw [matches?, untilNull_eq_self (not_mem_containing hneedle), untilNull_eq_self hkey,
    tokens_containing, matchTokens_anyRun]

theorem length_lt_length_containing (cs : List Char) : cs.length < (containing cs).length := by
  have hescaped : cs.length ≤ (escaped cs).length := by
    induction cs with
    | nil => exact Nat.le_refl 0
    | cons c cs ih =>
      have hcons : escaped (c :: cs) = (if isSpecial c then ['\\', c] else [c]) ++ escaped cs := rfl
      rw [hcons, List.length_append, List.length_cons]
      split <;> simp <;> omega
  simp [containing]
  omega

theorem length_le_utf8ByteSize (cs : List Char) : cs.length ≤ (String.ofList cs).utf8ByteSize := by
  induction cs with
  | nil => exact Nat.zero_le _
  | cons c cs ih =>
    have hc := c.utf8Size_pos
    have hcons : String.ofList (c :: cs) = String.singleton c ++ String.ofList cs := by
      rw [← String.toList_inj]
      simp
    rw [hcons, String.utf8ByteSize_append, String.utf8ByteSize_singleton, List.length_cons]
    omega

/-- A character that ends no text and is not taken for another one, apart from its case. -/
def PlainChar (c : Char) : Prop :=
  c ≠ '\x00' ∧ c ≠ '\uFFFE' ∧ c ≠ '\uFFFF'

instance (c : Char) : Decidable (PlainChar c) := inferInstanceAs (Decidable (_ ∧ _))

def PlainText (s : String) : Prop :=
  ∀ c ∈ s.toList, PlainChar c

instance (s : String) : Decidable (PlainText s) :=
  List.decidableBAll PlainChar s.toList

theorem PlainText.lowercase {s : String} (h : PlainText s) : PlainText (Text.lowercase s) := by
  intro c hc
  rw [toList_lowercase] at hc
  by_cases hs : Settled c
  · refine ⟨?_, ?_, ?_⟩ <;> (rintro rfl; exact absurd hs (by decide))
  · exact h c (mem_of_mem_lowered hc hs)

theorem PlainText.null_not_mem {s : String} (h : PlainText s) : '\x00' ∉ s.toList :=
  fun hmem => (h _ hmem).1 rfl

theorem folded_eq_self {c : Char} (hplain : PlainChar c) (hlower : c.toLower = c) :
    folded c = c := by
  have hend : ¬ (c = '\uFFFE' ∨ c = '\uFFFF') := by
    rintro (h | h)
    · exact hplain.2.1 h
    · exact hplain.2.2 h
  rw [folded, if_neg hend, hlower]

theorem map_folded_lowercase {s : String} (h : PlainText s) :
    (Text.lowercase s).toList.map folded = (Text.lowercase s).toList := by
  have hself : ∀ c ∈ (Text.lowercase s).toList, folded c = id c := fun c hc =>
    folded_eq_self (h.lowercase c hc) (toLower_of_mem_lowered (toList_lowercase s ▸ hc))
  rw [List.map_congr_left hself, List.map_id]

/-- Among plain texts the pattern of a lowercase form finds just the forms that contain it. -/
theorem matches?_lowercase {text key : String} (htext : PlainText text) (hkey : PlainText key) :
    matches? (containing (Text.lowercase text).toList) (Text.lowercase key).toList =
      occurs (Text.lowercase text).toList (Text.lowercase key).toList := by
  rw [matches?_containing htext.lowercase.null_not_mem hkey.lowercase.null_not_mem,
    map_folded_lowercase htext, map_folded_lowercase hkey]

end ChargingRegister.Like
