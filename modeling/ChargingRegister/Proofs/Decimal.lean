import ChargingRegister.Decimal

/-!
# Numbers read back

A number in decimal has no leading zero, and it is read back as it was. With zeros in front up to a
fixed width it still denotes the same number.
-/
namespace ChargingRegister.Decimal

theorem exists_digits (n : Nat) :
    ∃ c cs, Nat.toDigits 10 n = c :: cs ∧ ∀ d ∈ c :: cs, isDigit d = true := by
  have hread := natOf?_toDigits n
  rw [natOf?] at hread
  split at hread
  case isTrue => cases hread
  case isFalse hgood =>
    simp only [Bool.or_eq_true, not_or, List.isEmpty_iff, Bool.not_eq_true', Bool.not_eq_false,
      List.all_eq_true] at hgood
    obtain ⟨c, cs, hdigits⟩ := List.exists_cons_of_ne_nil hgood.1
    exact ⟨c, cs, hdigits, hdigits ▸ hgood.2⟩

theorem isDigit_of_mem_toDigits {n : Nat} {c : Char} (h : c ∈ Nat.toDigits 10 n) :
    isDigit c = true := by
  obtain ⟨d, ds, hdigits, hall⟩ := exists_digits n
  exact hall c (hdigits ▸ h)

/-- Only zero itself begins with a zero. -/
theorem head?_toDigits_ne {n : Nat} (h : 0 < n) : (Nat.toDigits 10 n).head? ≠ some '0' := by
  induction n using Nat.strongRecOn with
  | ind n ih =>
    rcases Nat.lt_or_ge n 10 with hlt | hge
    · have hdigit : ∀ m < 10, 0 < m → Nat.digitChar m ≠ '0' := by decide
      rw [Nat.toDigits_of_lt_base hlt]
      exact fun hzero => hdigit n hlt h (Option.some.inj hzero)
    · have hrest := ih (n / 10) (by omega) (by omega)
      obtain ⟨c, cs, hdigits, -⟩ := exists_digits (n / 10)
      rw [Nat.toDigits_of_base_le (by decide) hge]
      rw [hdigits] at hrest ⊢
      exact hrest

theorem ne_sign_of_isDigit {c : Char} (h : isDigit c = true) : c ≠ '-' ∧ c ≠ '+' := by
  constructor <;> (rintro rfl; revert h; decide)

section

variable {n : Int}

theorem toList_ofInt_of_nonneg (h : 0 ≤ n) : (ofInt n).toList = Nat.toDigits 10 n.toNat := by
  obtain ⟨m, rfl⟩ := Int.eq_ofNat_of_zero_le h
  exact String.toList_ofList

theorem toList_ofInt_of_neg (h : n < 0) :
    (ofInt n).toList = '-' :: Nat.toDigits 10 n.natAbs := by
  obtain ⟨m, rfl⟩ := Int.eq_negSucc_of_lt_zero h
  show ("-" ++ Nat.repr (m + 1)).toList = _
  rw [String.toList_append]
  exact congrArg ('-' :: ·) String.toList_ofList

theorem signedWord?_ofInt (h : FitsWord n) : signedWord? (ofInt n).toList = some n := by
  rcases Int.lt_or_le n 0 with hneg | hpos
  · have hn : -(n.natAbs : Int) = n := by omega
    rw [toList_ofInt_of_neg hneg, signedWord?, natOf?_toDigits]
    show Option.filter _ (some (-(n.natAbs : Int))) = some n
    rw [hn]
    exact Option.filter_some_pos (decide_eq_true h)
  · obtain ⟨c, cs, hdigits, hall⟩ := exists_digits n.toNat
    have hn : (n.toNat : Int) = n := by omega
    have hsign := ne_sign_of_isDigit (hall c List.mem_cons_self)
    rw [toList_ofInt_of_nonneg hpos]
    unfold signedWord?
    split
    case h_1 heq => cases hdigits.symm.trans heq; exact absurd rfl hsign.1
    case h_2 heq => cases hdigits.symm.trans heq; exact absurd rfl hsign.2
    case h_3 =>
      rw [natOf?_toDigits]
      show Option.filter _ (some (n.toNat : Int)) = some n
      rw [hn]
      exact Option.filter_some_pos (decide_eq_true h)

end

section

variable {width n : Nat}

theorem toList_padded (width n : Nat) :
    (padded width n).toList =
      List.replicate (width - (Nat.toDigits 10 n).length) '0' ++ Nat.toDigits 10 n := by
  rw [padded, String.toList_append, String.toList_ofList, ofNat, Nat.repr_eq_ofList_toDigits,
    String.toList_ofList, String.length_ofList]

theorem length_toList_padded (hwidth : 0 < width) (h : n < Nat.pow 10 width) :
    (padded width n).toList.length = width := by
  have hlen := (Nat.length_toDigits_le_iff (by decide) hwidth).mpr h
  rw [toList_padded, List.length_append, List.length_replicate]
  omega

theorem isDigit_of_mem_padded {c : Char} (h : c ∈ (padded width n).toList) : isDigit c = true := by
  rw [toList_padded, List.mem_append] at h
  rcases h with h | h
  · rw [List.eq_of_mem_replicate h]
    decide
  · exact isDigit_of_mem_toDigits h

theorem ofDigitChars_padded (width n : Nat) :
    Nat.ofDigitChars 10 (padded width n).toList 0 = n := by
  rw [toList_padded, Nat.ofDigitChars_append, Nat.ofDigitChars_replicate_zero, Nat.mul_zero,
    Nat.ofDigitChars_ten_toDigits]

end

end ChargingRegister.Decimal
