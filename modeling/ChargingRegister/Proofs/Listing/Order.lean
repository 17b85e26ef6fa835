import ChargingRegister.Store.Memory
import Mathlib.Data.Prod.Lex
import Mathlib.Data.String.Basic

/-!
# The order of listings

Listing keys are linearly ordered, lexicographically by lowercase name, name and number. Sorting
by a key is stable, so it commutes with filtering, and it commutes with every map that keeps the
keys.
-/
namespace ChargingRegister

namespace ListingKey

/-- The key in the lexicographic product that orders it. -/
def lexForm (k : ListingKey) : String ×ₗ String ×ₗ Int :=
  toLex (k.folded, toLex (k.name, k.id))

theorem le_iff_lexForm {a b : ListingKey} : a.le b = true ↔ a.lexForm ≤ b.lexForm := by
  rw [lexForm, lexForm, Prod.Lex.toLex_le_toLex, Prod.Lex.toLex_le_toLex, le]
  split
  case isTrue hf =>
    split
    case isTrue hn => simp [hf, hn]
    case isFalse hn =>
      rw [decide_eq_true_eq]
      constructor
      · intro h
        exact .inr ⟨hf, .inl h⟩
      · rintro (h | ⟨_, h | ⟨h, _⟩⟩)
        · exact absurd hf h.ne
        · exact h
        · exact absurd h hn
  case isFalse hf =>
    rw [decide_eq_true_eq]
    constructor
    · exact .inl
    · rintro (h | ⟨h, _⟩)
      · exact h
      · exact absurd h hf

theorem le_of_le_of_le (a b c : ListingKey) (hab : a.le b = true) (hbc : b.le c = true) :
    a.le c = true := by
  rw [le_iff_lexForm] at *
  exact hab.trans hbc

theorem le_or_le (a b : ListingKey) : (a.le b || b.le a) = true := by
  rw [Bool.or_eq_true, le_iff_lexForm, le_iff_lexForm]
  exact le_total _ _

end ListingKey

/-- A list is cut in one way only into what passes a test and what does not. -/
theorem append_inj_of_test {α : Type} (test : α → Bool) {xs xs' ys ys' : List α}
    (h : xs ++ ys = xs' ++ ys') (hxs : ∀ a ∈ xs, test a = true) (hys : ∀ a ∈ ys, test a = false)
    (hxs' : ∀ a ∈ xs', test a = true) (hys' : ∀ a ∈ ys', test a = false) : xs = xs' ∧ ys = ys' := by
  have hcut : ∀ us vs : List α, (∀ a ∈ us, test a = true) → (∀ a ∈ vs, test a = false) →
      (us ++ vs).takeWhile test = us := by
    intro us vs hus hvs
    rw [List.takeWhile_append_of_pos hus]
    cases vs with
    | nil => simp
    | cons v vs => simp [hvs v List.mem_cons_self]
  have hxx : xs = xs' := by rw [← hcut xs ys hxs hys, h, hcut xs' ys' hxs' hys']
  exact ⟨hxx, List.append_cancel_left (hxx ▸ h)⟩

theorem filter_mergeSort {α : Type} {le : α → α → Bool}
    (trans : ∀ a b c, le a b = true → le b c = true → le a c = true)
    (total : ∀ a b, (le a b || le b a) = true) (p : α → Bool) (l : List α) :
    (l.mergeSort le).filter p = (l.filter p).mergeSort le := by
  induction l with
  | nil => simp
  | cons a l ih =>
    obtain ⟨l₁, l₂, hcons, hl, hlt⟩ := List.mergeSort_cons trans total a l
    rw [hl, List.filter_append] at ih
    rw [hcons, List.filter_append]
    by_cases ha : p a = true
    · rw [List.filter_cons_of_pos ha, List.filter_cons_of_pos ha]
      obtain ⟨m₁, m₂, hcons', hm, hlt'⟩ := List.mergeSort_cons trans total a (l.filter p)
      have hsorted := hcons ▸ List.pairwise_mergeSort trans total (a :: l)
      have hsorted' := hcons' ▸ List.pairwise_mergeSort trans total (a :: l.filter p)
      -- in both lists just what `a` does not exceed stands behind it
      have hge : ∀ b ∈ l₂, le a b = true :=
        (List.pairwise_cons.mp (List.pairwise_append.mp hsorted).2.1).1
      have hge' : ∀ b ∈ m₂, le a b = true :=
        (List.pairwise_cons.mp (List.pairwise_append.mp hsorted').2.1).1
      obtain ⟨h₁, h₂⟩ := append_inj_of_test (fun b => !le a b) (ih.trans hm)
        (fun b hb => hlt b (List.mem_filter.mp hb).1)
        (fun b hb => by simp [hge b (List.mem_filter.mp hb).1])
        hlt' (fun b hb => by simp [hge' b hb])
      rw [hcons', h₁, h₂]
    · rw [List.filter_cons_of_neg ha, List.filter_cons_of_neg ha, ih]

theorem filter_listed (p : Station → Bool) (stations : List Station) :
    (listed stations).filter p = listed (stations.filter p) :=
  filter_mergeSort
    (fun a b c => ListingKey.le_of_le_of_le a.listingKey b.listingKey c.listingKey)
    (fun a b => ListingKey.le_or_le a.listingKey b.listingKey) p stations

theorem listed_map {α : Type} (key : α → ListingKey) (station : α → Station) {l : List α}
    (h : ∀ a ∈ l, (station a).listingKey = key a) :
    (l.mergeSort fun a b => (key a).le (key b)).map station = listed (l.map station) :=
  List.map_mergeSort fun a ha b hb => by rw [h a ha, h b hb]

end ChargingRegister
