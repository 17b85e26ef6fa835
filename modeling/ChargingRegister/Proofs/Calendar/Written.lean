import ChargingRegister.Calendar.Timestamp
import ChargingRegister.Proofs.Decimal
import ChargingRegister.Proofs.Text.Blank
import Mathlib.Data.List.TakeWhile

/-!
# Written time stamps are read back

The exchange form of an instant of the years 0 to 9999 has a fixed number of digits in every field
but the fraction of the second, and the reader gets every field back from it: also second 60, and
also the zeros that are left off at the end of a fraction.
-/
namespace ChargingRegister

open Decimal Text

theorem isBlank_of_isDigit {c : Char} (h : isDigit c = true) : isBlank c = false := by
  simp only [isDigit, Bool.and_eq_true, decide_eq_true_eq, Char.le_def,
    UInt32.le_iff_toNat_le] at h
  change 48 ≤ c.toNat ∧ c.toNat ≤ 57 at h
  refine Bool.eq_false_iff.mpr fun hblank => ?_
  rw [isBlank_iff] at hblank
  omega

theorem daysInMonth_le (year : Int) (month : Nat) : daysInMonth year month ≤ 31 := by
  unfold daysInMonth
  split
  · split <;> decide
  · split <;> decide

namespace Instant

/-- As many digits as may be taken are taken, whatever follows them. -/
theorem number?_append {limit : Nat} {digits : List Char} (hlimit : 0 < limit)
    (hlength : digits.length = limit) (hdigits : ∀ c ∈ digits, isDigit c = true)
    (rest : List Char) :
    number? limit (digits ++ rest) = some (Nat.ofDigitChars 10 digits 0, rest) := by
  have htaken : ((digits ++ rest).take limit).takeWhile isDigit = digits := by
    rw [List.take_left' hlength, List.takeWhile_eq_self_iff]
    exact hdigits
  have hne : digits ≠ [] := List.length_pos_iff.mp (hlength ▸ hlimit)
  simp only [number?, htaken, List.isEmpty_iff, hne, if_false, List.drop_left]

section

variable {width n : Nat} (hwidth : 0 < width) (h : n < Nat.pow 10 width) (rest : List Char)
include hwidth h

theorem exists_padded :
    ∃ c cs, (padded width n).toList = c :: cs ∧ isDigit c = true := by
  have hlength := length_toList_padded hwidth h
  obtain ⟨c, cs, hcs⟩ := List.exists_cons_of_length_pos (hlength ▸ hwidth)
  exact ⟨c, cs, hcs, isDigit_of_mem_padded (hcs ▸ List.mem_cons_self)⟩

theorem trimStart_padded :
    trimStart ((padded width n).toList ++ rest) = (padded width n).toList ++ rest := by
  obtain ⟨c, cs, hcs, hc⟩ := exists_padded hwidth h
  rw [hcs]
  exact trimStart_of_head (isBlank_of_isDigit hc)

theorem number?_padded : number? width ((padded width n).toList ++ rest) = some (n, rest) := by
  rw [number?_append hwidth (length_toList_padded hwidth h) fun _ => isDigit_of_mem_padded,
    ofDigitChars_padded]

end

section

variable {n : Nat} (h : n < 100) (rest : List Char)
include h

theorem pair?_padded :
    number? 2 (trimStart ((padded 2 n).toList ++ rest)) = some (n, rest) := by
  rw [trimStart_padded (by decide) h, number?_padded (by decide) h]

theorem field?_padded {mark : Char} (hmark : isBlank mark = false) :
    field? mark (mark :: ((padded 2 n).toList ++ rest)) = some (n, rest) := by
  rw [field?, trimStart_of_head hmark]
  exact (if_pos rfl).trans (pair?_padded h rest)

end

theorem year?_yearText {year : Int} (h : 0 ≤ year ∧ year ≤ 9999) (rest : List Char) :
    year? ((yearText year).toList ++ rest) = some (year, rest) := by
  have hwidth : year.toNat < Nat.pow 10 4 := by
    show year.toNat < 10000
    omega
  have hread := number?_padded (by decide) hwidth rest
  obtain ⟨c, cs, hcs, hc⟩ := exists_padded (by decide) hwidth
  have hsign := ne_sign_of_isDigit hc
  rw [yearText, if_pos h, year?, trimStart_padded (by decide) hwidth]
  rw [hcs, List.cons_append] at hread ⊢
  split
  case h_1 heq => exact absurd (List.cons.inj heq).1 hsign.1
  case h_2 heq => exact absurd (List.cons.inj heq).1 hsign.2
  case h_3 =>
    rw [hread]
    show some ((year.toNat : Int), rest) = _
    rw [Int.toNat_of_nonneg h.1]

/-- The zeros that a shorter fraction leaves off are put back. -/
theorem fraction?_padded {width n : Nat} (hwidth : 0 < width) (hnine : width ≤ 9)
    (h : n < Nat.pow 10 width) (rest : List Char) :
    fraction? ('.' :: ((padded width n).toList ++ 'Z' :: rest)) =
      some (n * Nat.pow 10 (9 - width), 'Z' :: rest) := by
  have hlength := length_toList_padded hwidth h
  have hdigits : ((padded width n).toList ++ 'Z' :: rest).takeWhile isDigit =
      (padded width n).toList := by
    rw [List.takeWhile_append_of_pos fun _ => isDigit_of_mem_padded,
      List.takeWhile_cons_of_neg (by decide), List.append_nil]
  have htaken : (padded width n).toList.take 9 = (padded width n).toList :=
    List.take_of_length_le (hlength.trans_le hnine)
  have hne : (padded width n).toList ≠ [] := List.length_pos_iff.mp (by omega)
  simp only [fraction?, hdigits, htaken, List.isEmpty_iff, hne, if_false, ofDigitChars_padded,
    hlength, List.drop_left' hlength]

theorem fraction?_fractionText {n : Nat} (h : n < 1000000000) (rest : List Char) :
    fraction? ((fractionText n).toList ++ 'Z' :: rest) = some (n, 'Z' :: rest) := by
  have htext (width m : Nat) : ("." ++ padded width m).toList ++ 'Z' :: rest =
      '.' :: ((padded width m).toList ++ 'Z' :: rest) := by
    rw [String.toList_append]
    rfl
  unfold fractionText
  split
  case isTrue hzero =>
    rw [hzero]
    rfl
  case isFalse =>
    split
    case isTrue hmillis =>
      have hlt : n / 1000000 < Nat.pow 10 3 := Nat.div_lt_of_lt_mul h
      have hwhole : n / 1000000 * Nat.pow 10 (9 - 3) = n :=
        Nat.div_mul_cancel (Nat.dvd_of_mod_eq_zero hmillis)
      rw [htext, fraction?_padded (by decide) (by decide) hlt, hwhole]
    case isFalse =>
      split
      case isTrue hmicros =>
        have hlt : n / 1000 < Nat.pow 10 6 := Nat.div_lt_of_lt_mul h
        have hwhole : n / 1000 * Nat.pow 10 (9 - 6) = n :=
          Nat.div_mul_cancel (Nat.dvd_of_mod_eq_zero hmicros)
        rw [htext, fraction?_padded (by decide) (by decide) hlt, hwhole]
      case isFalse =>
        have hwhole : n * Nat.pow 10 (9 - 9) = n := Nat.mul_one n
        rw [htext, fraction?_padded (by decide) (by decide) h, hwhole]

theorem toList_written (i : Instant) : i.written.toList =
    (yearText i.date.year).toList ++ '-' :: ((padded 2 i.date.month).toList ++
      '-' :: ((padded 2 i.date.day).toList ++ 'T' :: ((padded 2 i.time.hour).toList ++
        ':' :: ((padded 2 i.time.minute).toList ++ ':' :: ((padded 2 i.time.second).toList ++
          ((fractionText i.time.nanosecond).toList ++ ['Z'])))))) := by
  simp [written, dateText, clockText, String.toList_append]

/-- An instant of the years 0 to 9999 is read back from its exchange form. -/
theorem ofText?_written {i : Instant} (h : 0 ≤ i.date.year ∧ i.date.year ≤ 9999) :
    ofText? i.written = some i := by
  have hmonth : i.date.month < 100 := Nat.lt_of_le_of_lt i.date.month_ok.2 (by decide)
  have hday : i.date.day < 100 :=
    Nat.lt_of_le_of_lt (i.date.day_ok.2.trans (daysInMonth_le _ _)) (by decide)
  have hhour : i.time.hour < 100 := Nat.lt_trans i.time.hour_lt (by decide)
  have hminute : i.time.minute < 100 := Nat.lt_trans i.time.minute_lt (by decide)
  have hsecond : i.time.second < 100 := Nat.lt_of_le_of_lt i.time.second_le (by decide)
  have hdash : isBlank '-' = false := by decide
  have hcolon : isBlank ':' = false := by decide
  have hzone : trimStart ['Z'] = ['Z'] := trimStart_of_head (by decide)
  have hyears : earliestYear ≤ i.date.year ∧ i.date.year ≤ latestYear := by
    unfold earliestYear latestYear
    omega
  rw [ofText?, toList_written, ofChars?]
  simp only [Option.bind_eq_bind, Option.bind_some, year?_yearText h, field?_padded hmonth _ hdash,
    field?_padded hday _ hdash, pair?_padded hhour, field?_padded hminute _ hcolon,
    field?_padded hsecond _ hcolon, fraction?_fractionText i.time.nanosecond_lt, hzone, offset?,
    Date.of?_self, TimeOfDay.of?_self, ofLocal_zero, inReach, hyears, List.all_nil, decide_true,
    Bool.and_true, if_true]

end Instant

end ChargingRegister
