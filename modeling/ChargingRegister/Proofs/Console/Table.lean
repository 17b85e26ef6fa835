import ChargingRegister.Console.Report
import ChargingRegister.Proofs.Decimal
import ChargingRegister.Text.Parts
import Mathlib.Algebra.GroupWithZero.Nat
import Mathlib.Data.List.Forall2

/-!
# Tables of stations

Every column of a row but the last is a field of fixed width, whatever texts the station holds: a
short text is padded and a long one is cut. Line breaks are printed as they are, so a table has
one line for each station just when none is left in a field.
-/
namespace ChargingRegister

namespace Text

/-- What stands in a field for a text: the text with blanks behind it, or its beginning and an
ellipsis in the last place. -/
def Fills (width : Nat) (text field : String) : Prop :=
  (text.length ≤ width ∧
      field.toList = text.toList ++ List.replicate (width - text.length) ' ') ∨
    (width < text.length ∧ field.toList = text.toList.take (width - 1) ++ ['…'])

section

variable {width : Nat} (hwidth : 1 ≤ width) (s : String)

include hwidth

theorem length_truncate_le : (truncate width s).length ≤ width := by
  rcases Nat.lt_or_ge width s.length with hlong | hfits
  · exact Nat.le_of_eq (length_truncate_of_lt hlong hwidth)
  · rwa [truncate_of_length_le hfits]

theorem truncate_eq_self_iff : truncate width s = s ↔ s.length ≤ width := by
  refine ⟨fun h => ?_, truncate_of_length_le⟩
  rw [← h]
  exact length_truncate_le hwidth s

theorem truncate_truncate : truncate width (truncate width s) = truncate width s :=
  truncate_of_length_le (length_truncate_le hwidth s)

theorem fills_padRight_truncate : Fills width s (padRight width (truncate width s)) := by
  rcases Nat.lt_or_ge width s.length with hlong | hfits
  · have hfull := length_truncate_of_lt hlong hwidth
    refine .inr ⟨hlong, ?_⟩
    rw [padRight, hfull, Nat.sub_self, truncate, if_neg (Nat.not_le.2 hlong)]
    simp
  · refine .inl ⟨hfits, ?_⟩
    rw [truncate_of_length_le hfits, padRight, String.toList_append, String.toList_ofList]

theorem length_padRight_truncate : (padRight width (truncate width s)).length = width := by
  rw [length_padRight]
  exact Nat.max_eq_left (length_truncate_le hwidth s)

end

def breaks (s : String) : Nat :=
  s.toList.count '\n'

theorem breaks_eq_zero_iff {s : String} : breaks s = 0 ↔ '\n' ∉ s.toList :=
  List.count_eq_zero

@[simp] theorem breaks_append (s t : String) : breaks (s ++ t) = breaks s + breaks t := by
  rw [breaks, String.toList_append, List.count_append]
  rfl

theorem breaks_ofList_replicate (n : Nat) : breaks (String.ofList (List.replicate n ' ')) = 0 := by
  rw [breaks_eq_zero_iff, String.toList_ofList]
  exact fun h => absurd (List.eq_of_mem_replicate h) (by decide)

@[simp] theorem breaks_padRight (width : Nat) (s : String) :
    breaks (padRight width s) = breaks s := by
  rw [padRight, breaks_append, breaks_ofList_replicate, Nat.add_zero]

@[simp] theorem breaks_padLeft (width : Nat) (s : String) :
    breaks (padLeft width s) = breaks s := by
  rw [padLeft, breaks_append, breaks_ofList_replicate, Nat.zero_add]

section

variable {separator : Char}

theorem split_ne_nil (cs : List Char) : split separator cs ≠ [] := by
  cases cs with
  | nil => simp [split]
  | cons c cs =>
    rw [split]
    split
    · simp
    · split <;> simp

theorem split_append_cons (cs rest : List Char) :
    split separator (cs ++ separator :: rest) = split separator cs ++ split separator rest := by
  induction cs with
  | nil => simp [split]
  | cons c cs ih =>
    have hne : split separator cs ≠ [] := split_ne_nil cs
    obtain ⟨piece, pieces, hcs⟩ := List.exists_cons_of_ne_nil hne
    rw [List.cons_append, split, ih, split, hcs]
    split <;> rfl

theorem length_split (cs : List Char) :
    (split separator cs).length = cs.count separator + 1 := by
  induction cs with
  | nil => rfl
  | cons c cs ih =>
    have hne : split separator cs ≠ [] := split_ne_nil cs
    obtain ⟨piece, pieces, hcs⟩ := List.exists_cons_of_ne_nil hne
    rw [hcs] at ih
    rw [split, hcs, List.count_cons]
    split <;> simp_all

end

end Text

namespace Report

open Text

/-- Behind its number, a row consists of three fields of fixed widths and the time, with two blanks
in front of each. Cutting a text keeps to the width, leaves alone just what fits, and needs to be
done only once. -/
theorem rows_keep_columns :
    (∀ s : Station, ∃ name location status : String,
      row s = padLeft 6 (Decimal.ofInt s.id) ++ "  " ++ name ++ "  " ++ location ++ "  " ++
          status ++ "  " ++ lastUpdatedText s ∧
        (name.length = 28 ∧ location.length = 24 ∧ status.length = 15) ∧
        Fills 28 s.name name ∧ Fills 24 (s.location.getD "-") location ∧
        Fills 15 s.status.label status) ∧
      ∀ (text : String) (width : Nat), 1 ≤ width →
        (truncate width text).length ≤ width ∧
          (truncate width text = text ↔ text.length ≤ width) ∧
          truncate width (truncate width text) = truncate width text := by
  refine ⟨fun s => ?_, fun text width hwidth => ?_⟩
  · have hlabel : truncate 15 s.status.label = s.status.label :=
      truncate_of_length_le (by cases s.status <;> decide)
    have hwidth : 1 ≤ 15 := by decide
    have hlength := length_padRight_truncate hwidth s.status.label
    have hstatus := fills_padRight_truncate hwidth s.status.label
    rw [hlabel] at hlength hstatus
    exact ⟨padRight 28 (truncate 28 s.name), padRight 24 (truncate 24 (locationText s)),
      padRight 15 s.status.label, rfl,
      ⟨length_padRight_truncate (by decide) _, length_padRight_truncate (by decide) _, hlength⟩,
      fills_padRight_truncate (by decide) _, fills_padRight_truncate (by decide) _, hstatus⟩
  · exact ⟨length_truncate_le hwidth text, truncate_eq_self_iff hwidth text,
      truncate_truncate hwidth text⟩

/-- A width that is one character short of the text. -/
theorem rows_keep_columns_at_the_edge :
    1 ≤ 5 ∧ (truncate 5 "Straße").length ≤ 5 ∧
      (truncate 5 "Straße" = "Straße" ↔ "Straße".length ≤ 5) ∧
      truncate 5 (truncate 5 "Straße") = truncate 5 "Straße" :=
  ⟨by decide, rows_keep_columns.2 "Straße" 5 (by decide)⟩

/-- The lines of a printed text, each without the line break that ends it. -/
def printedLines (printed : String) : List String :=
  (split '\n' printed.toList).dropLast.map String.ofList

/-- The lines that a text makes when it is printed as one. -/
def pieces (line : String) : List String :=
  (split '\n' line.toList).map String.ofList

theorem length_pieces (line : String) : (pieces line).length = breaks line + 1 := by
  rw [pieces, List.length_map, length_split, breaks]

theorem pieces_of_unbroken {line : String} (h : breaks line = 0) : pieces line = [line] := by
  rw [pieces, split_of_notMem (breaks_eq_zero_iff.mp h), List.map_singleton, String.ofList_toList]

theorem split_ofLines (lines : List String) :
    split '\n' (ofLines lines).toList = lines.flatMap (fun l => split '\n' l.toList) ++ [[]] := by
  induction lines with
  | nil => rfl
  | cons l lines ih =>
    have hcons : (ofLines (l :: lines)).toList = l.toList ++ '\n' :: (ofLines lines).toList := by
      simp [ofLines]
    rw [hcons, split_append_cons, ih, List.flatMap_cons, List.append_assoc]

theorem printedLines_ofLines (lines : List String) :
    printedLines (ofLines lines) = lines.flatMap pieces := by
  rw [printedLines, split_ofLines, List.dropLast_concat, List.map_flatMap]
  rfl

theorem flatMap_pieces_of_unbroken {lines : List String} (h : ∀ l ∈ lines, breaks l = 0) :
    lines.flatMap pieces = lines := by
  rw [List.flatMap_congr fun l hl => pieces_of_unbroken (h l hl), List.flatMap_singleton']

/-- Printing some lines makes a further line of every break within them. -/
theorem length_flatMap_pieces (lines : List String) :
    (lines.flatMap pieces).length = lines.length + (lines.map breaks).sum := by
  induction lines with
  | nil => rfl
  | cons l lines ih =>
    rw [List.flatMap_cons, List.length_append, length_pieces, ih, List.length_cons, List.map_cons,
      List.sum_cons]
    omega

theorem breaks_of_isDigit {s : String} (h : ∀ c ∈ s.toList, Decimal.isDigit c = true) :
    breaks s = 0 :=
  breaks_eq_zero_iff.mpr fun hmem => absurd (h _ hmem) (by decide)

@[simp] theorem breaks_padded (width n : Nat) : breaks (Decimal.padded width n) = 0 :=
  breaks_of_isDigit fun _ => Decimal.isDigit_of_mem_padded

@[simp] theorem breaks_ofNat (n : Nat) : breaks (Decimal.ofNat n) = 0 := by
  refine breaks_of_isDigit fun c hc => ?_
  rw [Decimal.ofNat, Nat.repr_eq_ofList_toDigits, String.toList_ofList] at hc
  exact Decimal.isDigit_of_mem_toDigits hc

@[simp] theorem breaks_ofInt (n : Int) : breaks (Decimal.ofInt n) = 0 := by
  rw [breaks_eq_zero_iff]
  rcases Int.lt_or_le n 0 with hneg | hpos
  · rw [Decimal.toList_ofInt_of_neg hneg, List.mem_cons, not_or]
    exact ⟨by decide, fun h => absurd (Decimal.isDigit_of_mem_toDigits h) (by decide)⟩
  · rw [Decimal.toList_ofInt_of_nonneg hpos]
    exact fun h => absurd (Decimal.isDigit_of_mem_toDigits h) (by decide)

theorem breaks_shown (i : Instant) : breaks i.shown = 0 := by
  have hyear : breaks (Instant.yearText i.date.year) = 0 := by
    unfold Instant.yearText
    split
    · exact breaks_padded _ _
    · rw [breaks_append, breaks_padded]
      split <;> decide
  have hmarks : breaks "-" = 0 ∧ breaks ":" = 0 ∧ breaks " " = 0 := by decide
  simp [Instant.shown, Instant.dateText, Instant.clockText, hyear, hmarks]

theorem breaks_lastUpdatedText (s : Station) : breaks (lastUpdatedText s) = 0 := by
  unfold lastUpdatedText
  cases s.lastUpdated with
  | none => decide
  | some i => exact breaks_shown i

theorem breaks_columns (id name location status lastUpdated : String) :
    breaks (columns id name location status lastUpdated) =
      breaks id + breaks name + breaks location + breaks status + breaks lastUpdated := by
  have hgap : breaks "  " = 0 := by decide
  simp [columns, hgap]

theorem breaks_header : breaks header = 0 := by
  rw [header, breaks_columns]
  decide

theorem breaks_row (s : Station) :
    breaks (row s) = breaks (truncate 28 s.name) + breaks (truncate 24 (locationText s)) := by
  have hlabel : breaks s.status.label = 0 := by cases s.status <;> decide
  rw [row, breaks_columns, breaks_ofInt, hlabel, breaks_lastUpdatedText, Nat.zero_add,
    Nat.add_zero]

theorem breaks_countLine (shown total : Nat) : breaks (countLine shown total) = 0 := by
  have hwords : breaks " station(s)" = 0 ∧ breaks " of " = 0 := by decide
  unfold countLine
  split <;> simp [hwords]

/-- The text begins with a number, brought up to the width of its column. -/
def BeginsWithId (s : Station) (line : String) : Prop :=
  ∃ rest, line = padLeft 6 (Decimal.ofInt s.id) ++ "  " ++ rest

theorem beginsWithId_row (s : Station) : BeginsWithId s (row s) :=
  ⟨padRight 28 (truncate 28 s.name) ++ "  " ++ padRight 24 (truncate 24 (locationText s)) ++
      "  " ++ padRight 15 s.status.label ++ "  " ++ lastUpdatedText s, by
    simp only [row, columns, String.append_assoc]⟩

/-- A header, one line for each station in their order, an empty line and the count. -/
def OneLineEach (shown : List Station) (total : Nat) (printed : String) : Prop :=
  (printedLines printed).length = shown.length + 3 ∧
    ∃ rows, printedLines printed = header :: rows ++ ["", countLine shown.length total] ∧
      List.Forall₂ BeginsWithId shown rows

/-- No line break is left of the station's texts when they are cut to their fields. -/
def Unbroken (s : Station) : Prop :=
  '\n' ∉ (truncate 28 s.name).toList ∧ '\n' ∉ (truncate 24 (locationText s)).toList

instance (s : Station) : Decidable (Unbroken s) := inferInstanceAs (Decidable (_ ∧ _))

theorem unbroken_iff {s : Station} : Unbroken s ↔ breaks (row s) = 0 := by
  rw [Unbroken, ← breaks_eq_zero_iff, ← breaks_eq_zero_iff, breaks_row]
  omega

section

variable {shown : List Station} (hshown : shown ≠ []) (total : Nat)

include hshown

theorem printedLines_stations :
    printedLines ((Report.stations shown total).render .text) =
      header :: (shown.map row).flatMap pieces ++ ["", countLine shown.length total] := by
  have hempty : breaks "" = 0 := by decide
  have hlines : (Report.stations shown total).lines =
      header :: shown.map row ++ ["", countLine shown.length total] := by
    rw [lines, stationsLines, if_neg (by simpa using hshown)]
  have hlast : ["", countLine shown.length total].flatMap pieces =
      ["", countLine shown.length total] :=
    flatMap_pieces_of_unbroken (by simp [hempty, breaks_countLine])
  rw [render, hlines, printedLines_ofLines, List.cons_append, List.flatMap_cons,
    List.flatMap_append, pieces_of_unbroken breaks_header, hlast]
  rfl

theorem length_printedLines_stations :
    (printedLines ((Report.stations shown total).render .text)).length =
      shown.length + 3 + (shown.map fun s => breaks (row s)).sum := by
  have hrows := length_flatMap_pieces (shown.map row)
  rw [List.length_map, List.map_map] at hrows
  rw [printedLines_stations hshown, List.cons_append, List.length_cons, List.length_append, hrows]
  simp only [List.length_cons, List.length_nil, Function.comp_def]
  omega

end

/-- A table has one line for each station just when the stations' fields hold no line break; every
line break that they hold adds a line. -/
theorem one_line_each_iff {shown : List Station} (hshown : shown ≠ []) (total : Nat) :
    (printedLines ((Report.stations shown total).render .text)).length =
        shown.length + 3 + (shown.map fun s =>
          breaks (truncate 28 s.name) + breaks (truncate 24 (locationText s))).sum ∧
      (OneLineEach shown total ((Report.stations shown total).render .text) ↔
        ∀ s ∈ shown, Unbroken s) := by
  have hlength := length_printedLines_stations hshown total
  refine ⟨by simpa only [breaks_row] using hlength, fun h => ?_, fun h => ?_⟩
  · have hsum : (shown.map fun s => breaks (row s)).sum = 0 := by
      have hexact := h.1
      rw [hlength] at hexact
      omega
    intro s hs
    exact unbroken_iff.mpr (List.sum_eq_zero_iff_forall_eq_nat.mp hsum _ (List.mem_map_of_mem hs))
  · have hrows : (shown.map row).flatMap pieces = shown.map row := by
      refine flatMap_pieces_of_unbroken fun line hline => ?_
      obtain ⟨s, hs, rfl⟩ := List.mem_map.mp hline
      exact unbroken_iff.mp (h s hs)
    have hprinted := printedLines_stations hshown total
    rw [hrows] at hprinted
    refine ⟨by rw [hprinted]; simp, shown.map row, hprinted, ?_⟩
    rw [List.forall₂_map_right_iff, List.forall₂_same]
    exact fun s _ => beginsWithId_row s

/-- A line break behind the cut does no harm. -/
theorem one_line_each_past_the_cut :
    OneLineEach
      [⟨7, "Nordbahnhof, Gleis elf (Süd)\nÜbergang", some "a\tb", .charging, none⟩,
        ⟨-12345678, "x", none, .available, none⟩] 9
      ((Report.stations
        [⟨7, "Nordbahnhof, Gleis elf (Süd)\nÜbergang", some "a\tb", .charging, none⟩,
          ⟨-12345678, "x", none, .available, none⟩] 9).render .text) :=
  (one_line_each_iff (by decide) 9).2.mpr (by decide)

/-- The register takes a name that makes a row for a second station. -/
theorem one_station_in_two_rows :
    let s : Station := ⟨1, "a\n     2  b", none, .available, none⟩
    let printed := (Report.stations [s] 1).render .text
    Registry.checkName "create" s.name = .ok () ∧
      printedLines printed = [header, "     1  a",
        "     2  b                   -                         Available        -", "",
        "1 station(s)"] ∧
      ¬ OneLineEach [s] 1 printed := by
  intro s printed
  have hpieces : pieces (row s) = ["     1  a",
      "     2  b                   -                         Available        -"] := by
    decide +kernel
  have hcount : countLine 1 1 = "1 station(s)" := by decide
  have hlines := printedLines_stations (List.cons_ne_nil s []) 1
  rw [List.map_singleton, List.flatMap_singleton, hpieces, List.length_singleton, hcount] at hlines
  refine ⟨if_neg (by decide +kernel), hlines, fun h => ?_⟩
  have hlength := h.1
  rw [hlines] at hlength
  cases hlength

end Report

end ChargingRegister
