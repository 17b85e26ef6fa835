import ChargingRegister.Proofs.Text.Blank
import ChargingRegister.Proofs.Text.Sigma

/-!
# Trimming and lowercasing together

A lowercase form holds nothing but characters that keep their form anywhere, so lowercasing it
again changes nothing. Blanks keep their form as well, no other character turns into one, and
they end a word just as the end of the text does. So a text can be trimmed before or after it is
lowercased.
-/
namespace ChargingRegister.Text

/-- Every code point of one list of ranges lies outside those of the other. -/
def apart (rs ss : List (Nat × Nat)) : Bool :=
  rs.all fun r => ss.all fun s => r.2 < s.1 || s.2 < r.1

theorem inRanges_of_apart {rs ss : List (Nat × Nat)} (h : apart rs ss = true) {n : Nat}
    (hn : inRanges rs n = true) : inRanges ss n = false := by
  obtain ⟨r, hr, hin⟩ := List.any_eq_true.mp hn
  refine Bool.eq_false_iff.mpr fun hn' => ?_
  obtain ⟨s, hs, hin'⟩ := List.any_eq_true.mp hn'
  have hapart := List.all_eq_true.mp (List.all_eq_true.mp h r hr) s hs
  simp only [Bool.and_eq_true, Bool.or_eq_true, decide_eq_true_eq] at hin hin' hapart
  omega

def blankRanges : List (Nat × Nat) :=
  [(9, 13), (0x20, 0x20), (0x85, 0x85), (0xA0, 0xA0), (0x1680, 0x1680), (0x2000, 0x200A),
    (0x2028, 0x2029), (0x202F, 0x202F), (0x205F, 0x205F), (0x3000, 0x3000)]

theorem inRanges_blankRanges {c : Char} (h : isBlank c = true) :
    inRanges blankRanges c.toNat = true := by
  rw [isBlank_iff] at h
  simp only [inRanges, blankRanges, List.any_cons, List.any_nil, Bool.or_eq_true, Bool.and_eq_true,
    decide_eq_true_eq]
  omega

namespace CaseRun

def sources (r : CaseRun) : Nat × Nat :=
  (r.first, r.last)

def images (r : CaseRun) : Nat × Nat :=
  (r.image, r.image + (r.last - r.first))

/-- No form by the first run has another form by the second: the two lie apart, or they miss each
other in step. -/
def misses (r r' : CaseRun) : Bool :=
  r.image + (r.last - r.first) < r'.first || r'.last < r.image ||
    (r'.first ≤ r.image && (r.first == r.last || r.step % r'.step == 0) &&
      (r.image - r'.first) % r'.step != 0)

/-- The one capital whose form has two characters, as if it were a run. -/
def dottedCapital : CaseRun :=
  ⟨0x130, 0x130, 1, 0x69⟩

theorem misses_of_mem {r r' : CaseRun} (hr : r ∈ lowercaseRuns)
    (hr' : r' ∈ dottedCapital :: lowercaseRuns) : r.misses r' = true := by
  have hall : lowercaseRuns.all (fun r => (dottedCapital :: lowercaseRuns).all r.misses) := by
    decide +kernel
  exact List.all_eq_true.mp (List.all_eq_true.mp hall r hr) r' hr'

theorem covers_image_of_misses {r r' : CaseRun} (h : r.misses r' = true) {n : Nat}
    (hn : r.covers n = true) : r'.covers (r.image + (n - r.first)) = false := by
  simp only [covers, Bool.and_eq_true, decide_eq_true_eq, beq_iff_eq] at hn
  obtain ⟨⟨hfirst, hlast⟩, hstep⟩ := hn
  refine Bool.eq_false_iff.mpr fun hcovers => ?_
  simp only [covers, Bool.and_eq_true, decide_eq_true_eq, beq_iff_eq] at hcovers
  obtain ⟨⟨hfirst', hlast'⟩, hstep'⟩ := hcovers
  simp only [misses, Bool.or_eq_true, Bool.and_eq_true, decide_eq_true_eq, beq_iff_eq,
    bne_iff_ne] at h
  rcases h with (hbefore | hbehind) | ⟨⟨hstart, hsteps⟩, hoff⟩
  · omega
  · omega
  · have hshift : r'.step ∣ n - r.first := by
      rcases hsteps with hone | hmultiple
      · rw [show n - r.first = 0 by omega]
        exact Nat.dvd_zero _
      · exact Nat.dvd_trans (Nat.dvd_of_mod_eq_zero hmultiple) (Nat.dvd_of_mod_eq_zero hstep)
    have hsum : r.image + (n - r.first) - r'.first = (r.image - r'.first) + (n - r.first) := by
      omega
    rw [hsum] at hstep'
    exact hoff (Nat.mod_eq_zero_of_dvd
      ((Nat.dvd_add_left hshift).mp (Nat.dvd_of_mod_eq_zero hstep')))

theorem inRanges_sources {r : CaseRun} (hr : r ∈ lowercaseRuns) {n : Nat}
    (hn : r.covers n = true) : inRanges (lowercaseRuns.map sources) n = true := by
  refine List.any_eq_true.mpr ⟨r.sources, List.mem_map_of_mem hr, ?_⟩
  simp only [covers, Bool.and_eq_true] at hn
  exact Bool.and_eq_true_iff.mpr hn.1

theorem inRanges_images {r : CaseRun} (hr : r ∈ lowercaseRuns) {n : Nat} (hn : r.covers n = true) :
    inRanges (lowercaseRuns.map images) (r.image + (n - r.first)) = true := by
  refine List.any_eq_true.mpr ⟨r.images, List.mem_map_of_mem hr, ?_⟩
  simp only [covers, Bool.and_eq_true, decide_eq_true_eq] at hn
  refine Bool.and_eq_true_iff.mpr ⟨decide_eq_true ?_, decide_eq_true ?_⟩ <;>
  · simp only [images]
    omega

end CaseRun

/-- Lowercasing keeps the character, wherever it stands. -/
def IsLower (c : Char) : Prop :=
  c ≠ 'Σ' ∧ lowerChar c = [c]

instance (c : Char) : Decidable (IsLower c) := inferInstanceAs (Decidable (_ ∧ _))

theorem lowerChar_of_ascii {c : Char} (h : c.toNat < 0x80) : lowerChar c = [c.toLower] :=
  if_pos h

/-- Beyond ASCII a character keeps its form when no run covers it. -/
theorem isLower_of_uncovered {c : Char} (hascii : 0x80 ≤ c.toNat)
    (h : ∀ r ∈ CaseRun.dottedCapital :: lowercaseRuns, r.covers c.toNat = false) : IsLower c := by
  have hdotted : c ≠ 'İ' := by
    rintro rfl
    exact absurd (h _ List.mem_cons_self) (by decide)
  have hnone : lowercaseRuns.find? (·.covers c.toNat) = none :=
    List.find?_eq_none.mpr fun r hr =>
      Bool.eq_false_iff.mp (h r (List.mem_cons_of_mem _ hr))
  refine ⟨?_, ?_⟩
  · rintro rfl
    have hsome : (lowercaseRuns.find? (·.covers 'Σ'.toNat)).isSome = true := by decide +kernel
    rw [hnone] at hsome
    cases hsome
  · rw [lowerChar, if_neg (Nat.not_lt.mpr hascii), if_neg hdotted, hnone]

theorem isLower_of_ascii {c : Char} (h : c.toNat < 0x80) (hc : c.toLower = c) : IsLower c := by
  refine ⟨?_, by rw [lowerChar_of_ascii h, hc]⟩
  rintro rfl
  exact absurd h (by decide)

theorem mem_lowerChar_cases {c d : Char} (h : d ∈ lowerChar c) :
    (d = c ∧ lowerChar c = [c]) ∨ (c.toNat < 0x80 ∧ d = c.toLower) ∨ (d = 'i' ∨ d = '\u0307') ∨
      ∃ r ∈ lowercaseRuns, r.covers c.toNat = true ∧
        d = Char.ofNat (r.image + (c.toNat - r.first)) := by
  by_cases hascii : c.toNat < 0x80
  · rw [lowerChar_of_ascii hascii, List.mem_singleton] at h
    exact .inr (.inl ⟨hascii, h⟩)
  · by_cases hdotted : c = 'İ'
    · rw [lowerChar, if_neg hascii, if_pos hdotted] at h
      exact .inr (.inr (.inl (by simpa using h)))
    · cases hfound : lowercaseRuns.find? (·.covers c.toNat) with
      | none =>
        have hkept : lowerChar c = [c] := by
          rw [lowerChar, if_neg hascii, if_neg hdotted, hfound]
        rw [hkept, List.mem_singleton] at h
        exact .inl ⟨h, hkept⟩
      | some r =>
        rw [lowerChar, if_neg hascii, if_neg hdotted, hfound, List.mem_singleton] at h
        have hcovers := List.find?_some hfound
        exact .inr (.inr (.inr ⟨r, List.mem_of_find?_eq_some hfound, hcovers, h⟩))

theorem isLower_image {r : CaseRun} (hr : r ∈ lowercaseRuns) {n : Nat} (hn : r.covers n = true) :
    IsLower (Char.ofNat (r.image + (n - r.first))) := by
  have hsettled := isSettled_of_mem hr
  by_cases hascii : (Char.ofNat (r.image + (n - r.first))).toNat < 0x80
  · exact isLower_of_ascii hascii (CaseRun.settled_image hsettled hn).toLower_eq_self
  · refine isLower_of_uncovered (Nat.not_lt.mp hascii) fun r' hr' => ?_
    rw [CaseRun.toNat_image hsettled hn]
    exact CaseRun.covers_image_of_misses (CaseRun.misses_of_mem hr hr') hn

theorem isLower_of_mem_lowerChar {c d : Char} (hc : c ≠ 'Σ') (h : d ∈ lowerChar c) : IsLower d := by
  rcases mem_lowerChar_cases h with ⟨rfl, hkept⟩ | ⟨hascii, rfl⟩ | (rfl | rfl) | ⟨r, hr, hn, rfl⟩
  · exact ⟨hc, hkept⟩
  · have hlower := toNat_toLower c
    refine isLower_of_ascii ?_ (toLower_eq_self_iff.mpr ?_) <;> split at hlower <;> omega
  · decide
  · decide +kernel
  · exact isLower_image hr hn

theorem isLower_of_mem_lowered {before cs : List Char} {d : Char} (h : d ∈ lowered before cs) :
    IsLower d := by
  induction cs generalizing before with
  | nil => cases h
  | cons c cs ih =>
    rw [lowered, List.mem_append] at h
    rcases h with h | h
    · by_cases hc : c = 'Σ'
      · subst hc
        rw [lowerBetween_sigma, List.mem_singleton] at h
        rw [h, sigmaForm]
        split <;> decide +kernel
      · rw [lowerBetween_of_ne hc] at h
        exact isLower_of_mem_lowerChar hc h
    · exact ih h

theorem loweredWithin_of_isLower {cs : List Char} (h : ∀ c ∈ cs, IsLower c)
    (before after : List Char) : loweredWithin before after cs = cs := by
  induction cs generalizing before with
  | nil => rfl
  | cons c cs ih =>
    obtain ⟨hc, hcs⟩ := List.forall_mem_cons.mp h
    rw [loweredWithin, lowerBetween_of_ne hc.1, hc.2, ih hcs, List.singleton_append]

@[simp] theorem lowered_lowered (before before' cs : List Char) :
    lowered before (lowered before' cs) = lowered before' cs := by
  rw [← loweredWithin_nil before]
  exact loweredWithin_of_isLower (fun c hc => isLower_of_mem_lowered hc) before []

@[simp] theorem lowercase_lowercase (s : String) : lowercase (lowercase s) = lowercase s := by
  apply String.toList_inj.mp
  simp only [toList_lowercase, lowered_lowered]

section

variable {c : Char} (h : isBlank c = true)
include h

theorem isLower_of_blank : IsLower c := by
  have hranges := inRanges_blankRanges h
  by_cases hascii : c.toNat < 0x80
  · refine isLower_of_ascii hascii (toLower_eq_self_iff.mpr fun hcapital => ?_)
    rw [isBlank_iff] at h
    omega
  · refine isLower_of_uncovered (Nat.not_lt.mp hascii) fun r hr => ?_
    refine Bool.eq_false_iff.mpr fun hn => ?_
    rcases List.mem_cons.mp hr with rfl | hr
    · simp only [CaseRun.covers, Bool.and_eq_true, decide_eq_true_eq] at hn
      have hdotted : 0x130 ≤ c.toNat ∧ c.toNat ≤ 0x130 := hn.1
      rw [isBlank_iff] at h
      omega
    · have hapart : apart blankRanges (lowercaseRuns.map CaseRun.sources) = true := by
        decide +kernel
      exact absurd (CaseRun.inRanges_sources hr hn)
        (Bool.eq_false_iff.mp (inRanges_of_apart hapart hranges))

theorem nearestCased?_cons_of_blank (cs : List Char) : nearestCased? (c :: cs) = some false := by
  have hranges := inRanges_blankRanges h
  have hapart : apart blankRanges ignorableRanges ∧ apart blankRanges casedRanges := by
    decide +kernel
  have hignorable : isCaseIgnorable c = false := inRanges_of_apart hapart.1 hranges
  have hcased : isCased c = false := inRanges_of_apart hapart.2 hranges
  rw [nearestCased?, List.dropWhile_cons_of_neg (Bool.eq_false_iff.mp hignorable), List.head?_cons,
    Option.map_some, hcased]

end

theorem isBlank_of_mem_lowerBetween {before after : List Char} {c d : Char}
    (h : d ∈ lowerBetween before c after) (hd : isBlank d = true) : isBlank c = true := by
  by_cases hc : c = 'Σ'
  · subst hc
    rw [lowerBetween_sigma, List.mem_singleton] at h
    rw [h, sigmaForm] at hd
    split at hd <;> exact absurd hd (by decide)
  · rw [lowerBetween_of_ne hc] at h
    rcases mem_lowerChar_cases h with ⟨rfl, -⟩ | ⟨hascii, rfl⟩ | (rfl | rfl) | ⟨r, hr, hn, rfl⟩
    · exact hd
    · have hlower := toNat_toLower c
      rw [isBlank_iff] at hd ⊢
      split at hlower <;> omega
    · exact absurd hd (by decide)
    · exact absurd hd (by decide)
    · have hapart : apart blankRanges (lowercaseRuns.map CaseRun.images) = true := by
        decide +kernel
      have hout := inRanges_of_apart hapart (inRanges_blankRanges hd)
      rw [CaseRun.toNat_image (isSettled_of_mem hr) hn] at hout
      exact absurd (CaseRun.inRanges_images hr hn) (Bool.eq_false_iff.mp hout)

theorem bare_lowered {cs : List Char} (h : Bare isBlank cs) : Bare isBlank (lowered [] cs) where
  head := by
    intro d hd
    cases cs with
    | nil => cases hd
    | cons c cs =>
      rw [lowered, List.head?_append_of_ne_nil _ (lowerBetween_ne_nil [] cs c)] at hd
      refine Bool.eq_false_iff.mpr fun hblank => ?_
      have hc := isBlank_of_mem_lowerBetween (List.mem_of_mem_head? hd) hblank
      exact absurd hc (Bool.eq_false_iff.mp (h.head c rfl))
  last := by
    intro d hd
    rcases List.eq_nil_or_concat cs with rfl | ⟨cs, c, rfl⟩
    · cases hd
    · rw [List.concat_eq_append, ← loweredWithin_nil, loweredWithin_append, loweredWithin,
        loweredWithin, List.append_nil (lowerBetween _ _ _),
        List.getLast?_append_of_ne_nil _ (lowerBetween_ne_nil _ _ c)] at hd
      refine Bool.eq_false_iff.mpr fun hblank => ?_
      have hc := isBlank_of_mem_lowerBetween (List.mem_of_mem_getLast? hd) hblank
      exact absurd hc (Bool.eq_false_iff.mp (h.last c (by simp)))

theorem sigmaForm_or_of_ne {farBefore farAfter : Option Bool} (hbefore : farBefore ≠ some true)
    (hafter : farAfter ≠ some true) (before after : Option Bool) :
    sigmaForm (before.or farBefore) (after.or farAfter) = sigmaForm before after := by
  revert hbefore hafter
  rcases farBefore with _ | _ | _ <;> rcases farAfter with _ | _ | _ <;>
    rcases before with _ | _ | _ <;> rcases after with _ | _ | _ <;> decide

/-- Surroundings without a letter next to the text decide on none of its forms. -/
theorem loweredWithin_of_uncased {before after : List Char}
    (hbefore : nearestCased? before ≠ some true) (hafter : nearestCased? after ≠ some true)
    (near cs : List Char) :
    loweredWithin (near ++ before) after cs = loweredWithin near [] cs := by
  induction cs generalizing near with
  | nil => rfl
  | cons c cs ih =>
    have hform : lowerBetween (near ++ before) c (cs ++ after) =
        lowerBetween near c (cs ++ []) := by
      by_cases hc : c = 'Σ'
      · subst hc
        rw [lowerBetween_sigma, lowerBetween_sigma, nearestCased?_append, nearestCased?_append,
          sigmaForm_or_of_ne hbefore hafter, List.append_nil]
      · rw [lowerBetween_of_ne hc, lowerBetween_of_ne hc]
    rw [loweredWithin, loweredWithin, hform]
    exact congrArg _ (ih (c :: near))

theorem nearestCased?_ne_of_blank {cs : List Char} (h : ∀ c ∈ cs, isBlank c = true) :
    nearestCased? cs ≠ some true := by
  cases cs with
  | nil => nofun
  | cons c cs =>
    rw [nearestCased?_cons_of_blank (h c List.mem_cons_self)]
    decide

theorem lowered_padded {front back : List Char} (hfront : ∀ c ∈ front, isBlank c = true)
    (hback : ∀ c ∈ back, isBlank c = true) (cs : List Char) :
    lowered [] (front ++ cs ++ back) = front ++ lowered [] cs ++ back := by
  have hmargin : ∀ margin : List Char, (∀ c ∈ margin, isBlank c = true) → ∀ before after,
      loweredWithin before after margin = margin :=
    fun margin h => loweredWithin_of_isLower fun c hc => isLower_of_blank (h c hc)
  have hfront' : ∀ c ∈ front.reverse, isBlank c = true :=
    fun c hc => hfront c (List.mem_reverse.mp hc)
  have hcs := loweredWithin_of_uncased (nearestCased?_ne_of_blank hfront')
    (nearestCased?_ne_of_blank hback) [] cs
  rw [List.nil_append] at hcs
  rw [← loweredWithin_nil, loweredWithin_append, loweredWithin_append, List.append_nil,
    List.append_nil, hmargin front hfront, hmargin back hback, hcs, loweredWithin_nil]

theorem trimmed_lowered (cs : List Char) : trimmed (lowered [] cs) = lowered [] (trimmed cs) := by
  obtain ⟨front, back, hcs, hfront, hback⟩ := exists_margins isBlank cs
  rw [← trimmed_eq_inner] at hcs
  have hform : lowered [] cs = front ++ lowered [] (trimmed cs) ++ back := by
    rw [← lowered_padded hfront hback, ← hcs]
  rw [hform]
  exact inner_append hfront hback (bare_lowered (bare_inner isBlank cs))

theorem trim_lowercase (s : String) : trim (lowercase s) = lowercase (trim s) := by
  apply String.toList_inj.mp
  simp only [toList_trim, toList_lowercase, trimmed_lowered]

theorem trimmed_trimmed (cs : List Char) : trimmed (trimmed cs) = trimmed cs := by
  have hnone : ∀ c ∈ ([] : List Char), isBlank c = true := nofun
  have hbare := inner_append hnone hnone (bare_inner isBlank cs)
  rwa [List.nil_append, List.append_nil] at hbare

@[simp] theorem trim_trim (s : String) : trim (trim s) = trim s := by
  apply String.toList_inj.mp
  simp only [toList_trim, trimmed_trimmed]

theorem trim_padded {front back : String} (hfront : ∀ c ∈ front.toList, isBlank c = true)
    (hback : ∀ c ∈ back.toList, isBlank c = true) (s : String) :
    trim (front ++ s ++ back) = trim s := by
  apply String.toList_inj.mp
  rw [toList_trim, toList_trim, String.toList_append, String.toList_append,
    trimmed_padded hfront hback]

end ChargingRegister.Text
