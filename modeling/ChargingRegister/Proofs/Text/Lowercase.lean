import ChargingRegister.Text.Lowercase

/-!
# What lowercase forms consist of

Lowercasing keeps a character or puts a settled one in its place, which lies behind the capitals
of ASCII and is none of the last three code points of the basic plane. So a lowercase form holds
no capital of ASCII, and it holds the null character or one of those last code points only where
the text itself does.
-/
namespace ChargingRegister.Text

/-- Behind the capitals of ASCII, and not at the end of the basic plane. -/
def Settled (c : Char) : Prop :=
  'Z'.toNat < c.toNat ∧ (c.toNat < 0xFFFD ∨ 0xFFFF < c.toNat)

instance (c : Char) : Decidable (Settled c) := inferInstanceAs (Decidable (_ ∧ _))

def CaseRun.isSettled (r : CaseRun) : Bool :=
  let top := r.image + (r.last - r.first)
  'Z'.toNat < r.image &&
    (top < 0xD800 || (0xE000 ≤ r.image && top < 0xFFFD) || (0xFFFF < r.image && top < 0x110000))

theorem isSettled_of_mem {r : CaseRun} (h : r ∈ lowercaseRuns) : r.isSettled = true := by
  have hall : lowercaseRuns.all CaseRun.isSettled = true := by decide +kernel
  exact List.all_eq_true.mp hall r h

theorem toNat_ofNat_of_isValidChar {n : Nat} (h : n.isValidChar) : (Char.ofNat n).toNat = n := by
  rw [Char.ofNat, dif_pos h]
  rfl

theorem CaseRun.toNat_image {r : CaseRun} {n : Nat} (hr : r.isSettled = true)
    (hn : r.covers n = true) :
    (Char.ofNat (r.image + (n - r.first))).toNat = r.image + (n - r.first) := by
  apply toNat_ofNat_of_isValidChar
  simp only [isSettled, covers, Bool.and_eq_true, Bool.or_eq_true, decide_eq_true_eq] at hr hn
  simp only [Nat.isValidChar]
  omega

theorem CaseRun.settled_image {r : CaseRun} {n : Nat} (hr : r.isSettled = true)
    (hn : r.covers n = true) : Settled (Char.ofNat (r.image + (n - r.first))) := by
  rw [Settled, toNat_image hr hn]
  simp only [isSettled, covers, Bool.and_eq_true, Bool.or_eq_true, decide_eq_true_eq] at hr hn
  omega

theorem toNat_toLower (c : Char) :
    c.toLower.toNat = if 65 ≤ c.toNat ∧ c.toNat ≤ 90 then c.toNat + 32 else c.toNat := by
  by_cases h : 65 ≤ c.toNat ∧ c.toNat ≤ 90
  · have hupper : c.val ≥ 'A'.val ∧ c.val ≤ 'Z'.val := h
    have hsum : c.val.toNat + 32 < 2 ^ 32 :=
      Nat.lt_of_le_of_lt (Nat.add_le_add_right h.2 32) (by decide)
    rw [if_pos h]
    show (dite (c.val ≥ 'A'.val ∧ c.val ≤ 'Z'.val) _ _ : Char).toNat = _
    rw [dif_pos hupper]
    show (c.val + 32).toNat = c.val.toNat + 32
    rw [UInt32.toNat_add]
    exact Nat.mod_eq_of_lt hsum
  · have hother : ¬ (c.val ≥ 'A'.val ∧ c.val ≤ 'Z'.val) := h
    rw [if_neg h]
    show (dite (c.val ≥ 'A'.val ∧ c.val ≤ 'Z'.val) _ _ : Char).toNat = _
    rw [dif_neg hother]

theorem toLower_eq_self_iff {c : Char} : c.toLower = c ↔ ¬ (65 ≤ c.toNat ∧ c.toNat ≤ 90) := by
  rw [← Char.toNat_inj, toNat_toLower]
  split
  · omega
  · simp_all

theorem Settled.toLower_eq_self {c : Char} (h : Settled c) : c.toLower = c := by
  have hZ : 90 < c.toNat := h.1
  rw [toLower_eq_self_iff]
  omega

/-- A character of a lowercase form is the one that was there, or a settled one. -/
theorem mem_lowerChar {c d : Char} (h : d ∈ lowerChar c) : (d = c ∧ c.toLower = c) ∨ Settled d := by
  unfold lowerChar at h
  split at h
  case isTrue hascii =>
    rw [List.mem_singleton] at h
    subst h
    by_cases hc : c.toLower = c
    · exact .inl ⟨hc, hc⟩
    · have hcap := Decidable.not_not.mp (mt toLower_eq_self_iff.mpr hc)
      refine .inr ?_
      show 90 < _ ∧ _
      rw [toNat_toLower, if_pos hcap]
      omega
  case isFalse hascii =>
    split at h
    case isTrue => simp at h; rcases h with rfl | rfl <;> exact .inr (by decide)
    case isFalse =>
      split at h
      case h_1 r hr =>
        rw [List.mem_singleton] at h
        subst h
        have hcovers := List.find?_some hr
        exact .inr (CaseRun.settled_image (isSettled_of_mem (List.mem_of_find?_eq_some hr)) hcovers)
      case h_2 =>
        rw [List.mem_singleton] at h
        exact .inl ⟨h, toLower_eq_self_iff.mpr (by omega)⟩

theorem mem_lowerBetween {before after : List Char} {c d : Char}
    (h : d ∈ lowerBetween before c after) : (d = c ∧ c.toLower = c) ∨ Settled d := by
  unfold lowerBetween at h
  split at h
  case isTrue =>
    refine .inr ?_
    split at h <;> (rw [List.mem_singleton] at h; subst h; decide)
  case isFalse => exact mem_lowerChar h

theorem mem_lowered {before cs : List Char} {d : Char} (h : d ∈ lowered before cs) :
    (d ∈ cs ∧ d.toLower = d) ∨ Settled d := by
  induction cs generalizing before with
  | nil => simp [lowered] at h
  | cons c cs ih =>
    rw [lowered, List.mem_append] at h
    rcases h with h | h
    · rcases mem_lowerBetween h with ⟨rfl, hc⟩ | hs
      · exact .inl ⟨List.mem_cons_self, hc⟩
      · exact .inr hs
    · rcases ih h with ⟨hd, hl⟩ | hs
      · exact .inl ⟨List.mem_cons_of_mem _ hd, hl⟩
      · exact .inr hs

theorem toLower_of_mem_lowered {before cs : List Char} {d : Char} (h : d ∈ lowered before cs) :
    d.toLower = d := by
  rcases mem_lowered h with ⟨_, hd⟩ | hs
  · exact hd
  · exact hs.toLower_eq_self

/-- Lowercasing brings in settled characters only. -/
theorem mem_of_mem_lowered {before cs : List Char} {d : Char} (h : d ∈ lowered before cs)
    (hd : ¬ Settled d) : d ∈ cs := by
  rcases mem_lowered h with ⟨hmem, _⟩ | hs
  · exact hmem
  · exact absurd hs hd

theorem null_notMem_lowercase {s : String} (h : '\x00' ∉ s.toList) :
    '\x00' ∉ (lowercase s).toList := by
  rw [toList_lowercase]
  exact fun hmem => h (mem_of_mem_lowered hmem (by decide))

theorem lowerBetween_ne_nil (before after : List Char) (c : Char) :
    lowerBetween before c after ≠ [] := by
  unfold lowerBetween lowerChar
  repeat' split
  all_goals simp

theorem length_le_length_lowered (before cs : List Char) :
    cs.length ≤ (lowered before cs).length := by
  induction cs generalizing before with
  | nil => exact Nat.le_refl 0
  | cons c cs ih =>
    have hc := List.length_pos_iff.mpr (lowerBetween_ne_nil before cs c)
    have hcs := ih (c :: before)
    rw [lowered, List.length_append, List.length_cons]
    omega

@[simp] theorem lowered_eq_nil {before cs : List Char} : lowered before cs = [] ↔ cs = [] := by
  cases cs with
  | nil => simp [lowered]
  | cons c cs => simp [lowered, lowerBetween_ne_nil]

end ChargingRegister.Text
