import ChargingRegister.Text.Parts
import Mathlib.Data.List.DropRight

/-!
# What trimming leaves and what it takes away

A text is its trimmed part between two margins of blanks. The trimmed part is the only one that
has blanks on both sides and none at its ends. The same holds for any other test in place of being
blank, and a text that was rewritten character by character is trimmed by the test rewritten.
-/
namespace ChargingRegister.Text

theorem isBlank_iff {c : Char} : isBlank c = true ↔
    9 ≤ c.toNat ∧ c.toNat ≤ 13 ∨ c.toNat = 0x20 ∨ c.toNat = 0x85 ∨ c.toNat = 0xA0 ∨
      c.toNat = 0x1680 ∨ 0x2000 ≤ c.toNat ∧ c.toNat ≤ 0x200A ∨ c.toNat = 0x2028 ∨
      c.toNat = 0x2029 ∨ c.toNat = 0x202F ∨ c.toNat = 0x205F ∨ c.toNat = 0x3000 := by
  simp only [isBlank, Bool.or_eq_true, Bool.and_eq_true, decide_eq_true_eq, beq_iff_eq, or_assoc]

/-- What is left when the characters that pass a test are dropped from both ends. -/
def inner (p : Char → Bool) (cs : List Char) : List Char :=
  (cs.dropWhile p).rdropWhile p

theorem trimmed_eq_inner (cs : List Char) : trimmed cs = inner isBlank cs := rfl

theorem inner_map (p : Char → Bool) (f : Char → Char) (cs : List Char) :
    inner p (cs.map f) = (inner (p ∘ f) cs).map f := by
  simp only [inner, List.rdropWhile, List.dropWhile_map, ← List.map_reverse]

/-- Neither end of the text passes the test. -/
structure Bare (p : Char → Bool) (cs : List Char) : Prop where
  head : ∀ c ∈ cs.head?, p c = false
  last : ∀ c ∈ cs.getLast?, p c = false

theorem bare_of_any {p : Char → Bool} {cs : List Char} (hhead : cs.head?.any p = false)
    (hlast : cs.getLast?.any p = false) : Bare p cs where
  head := fun c hc => by rwa [Option.mem_def.mp hc] at hhead
  last := fun c hc => by rwa [Option.mem_def.mp hc] at hlast

theorem Bare.mono {p q : Char → Bool} {cs : List Char} (h : Bare p cs)
    (hq : ∀ c, p c = false → q c = false) : Bare q cs where
  head := fun c hc => hq c (h.head c hc)
  last := fun c hc => hq c (h.last c hc)

theorem Bare.of_map {p : Char → Bool} {f : Char → Char} {cs : List Char} (h : Bare p (cs.map f)) :
    Bare (p ∘ f) cs where
  head := fun c hc => h.head (f c) (by rw [List.head?_map, Option.mem_def.mp hc]; rfl)
  last := fun c hc => h.last (f c) (by rw [List.getLast?_map, Option.mem_def.mp hc]; rfl)

theorem dropWhile_of_bare {p : Char → Bool} {front cs : List Char} (hfront : ∀ c ∈ front, p c)
    (h : ∀ c ∈ cs.head?, p c = false) : (front ++ cs).dropWhile p = cs := by
  rw [List.dropWhile_append_of_pos hfront]
  cases cs with
  | nil => rfl
  | cons c cs => exact List.dropWhile_cons_of_neg (Bool.eq_false_iff.mp (h c rfl))

theorem takeWhile_of_bare {p : Char → Bool} {front cs : List Char} (hfront : ∀ c ∈ front, p c)
    (h : ∀ c ∈ cs.head?, p c = false) : (front ++ cs).takeWhile p = front := by
  rw [List.takeWhile_append_of_pos hfront]
  cases cs with
  | nil => exact List.append_nil front
  | cons c cs =>
    rw [List.takeWhile_cons_of_neg (Bool.eq_false_iff.mp (h c rfl)), List.append_nil]

section

variable {p : Char → Bool} {front cs back : List Char}

theorem bare_inner (p : Char → Bool) (cs : List Char) : Bare p (inner p cs) where
  head := by
    intro c hc
    obtain ⟨rest, hrest⟩ := List.rdropWhile_prefix p (cs.dropWhile p)
    have hhead : (cs.dropWhile p).head? = some c := by
      rw [← hrest, List.head?_append]
      exact Option.or_eq_some_iff.mpr (.inl hc)
    have hnot := List.head?_dropWhile_not p cs
    rw [hhead] at hnot
    exact hnot
  last := by
    intro c hc
    obtain ⟨hne, rfl⟩ := List.mem_getLast?_eq_getLast hc
    exact Bool.eq_false_iff.mpr (List.rdropWhile_last_not p (cs.dropWhile p) hne)

/-- Every text is its inner part between two margins. -/
theorem exists_margins (p : Char → Bool) (cs : List Char) :
    ∃ front back, cs = front ++ inner p cs ++ back ∧ (∀ c ∈ front, p c) ∧ ∀ c ∈ back, p c := by
  refine ⟨cs.takeWhile p, (cs.dropWhile p).rtakeWhile p, ?_, fun c hc => List.mem_takeWhile_imp hc,
    fun c hc => List.mem_rtakeWhile_imp hc⟩
  rw [inner, List.append_assoc, List.rdropWhile_append_rtakeWhile, List.takeWhile_append_dropWhile]

theorem inner_append (hfront : ∀ c ∈ front, p c) (hback : ∀ c ∈ back, p c) (h : Bare p cs) :
    inner p (front ++ cs ++ back) = cs := by
  rw [inner, List.append_assoc]
  cases cs with
  | nil =>
    rw [List.nil_append, List.dropWhile_append_of_pos hfront, List.dropWhile_eq_nil_iff.mpr hback]
    rfl
  | cons c cs =>
    have hstart : (front ++ (c :: cs ++ back)).dropWhile p = c :: cs ++ back :=
      dropWhile_of_bare hfront h.head
    have hend : (back.reverse ++ (c :: cs).reverse).dropWhile p = (c :: cs).reverse :=
      dropWhile_of_bare (fun d hd => hback d (List.mem_reverse.mp hd))
        (List.head?_reverse ▸ h.last)
    rw [hstart, List.rdropWhile, List.reverse_append, hend, List.reverse_reverse]

end

def margins (cs : List Char) : List Char :=
  cs.takeWhile isBlank ++ cs.rtakeWhile isBlank

theorem margins_append {front cs back : List Char} (hfront : ∀ c ∈ front, isBlank c)
    (hback : ∀ c ∈ back, isBlank c) (h : Bare isBlank cs) (hne : cs ≠ []) :
    margins (front ++ cs ++ back) = front ++ back := by
  have hstart : (front ++ (cs ++ back)).takeWhile isBlank = front :=
    takeWhile_of_bare hfront fun c hc => h.head c (by rwa [List.head?_append_of_ne_nil cs hne] at hc)
  have hend : (back.reverse ++ (front ++ cs).reverse).takeWhile isBlank = back.reverse :=
    takeWhile_of_bare (fun c hc => hback c (List.mem_reverse.mp hc)) fun c hc =>
      h.last c (by rwa [List.head?_reverse, List.getLast?_append_of_ne_nil front hne] at hc)
  rw [margins, List.rtakeWhile, List.reverse_append, hend, List.reverse_reverse, List.append_assoc,
    hstart]

section

variable {front cs back : List Char} (hfront : ∀ c ∈ front, isBlank c)
  (hback : ∀ c ∈ back, isBlank c)

include hfront hback

theorem exists_margins_padded (cs : List Char) :
    ∃ before behind, cs = before ++ trimmed cs ++ behind ∧
      front ++ cs ++ back = (front ++ before) ++ trimmed cs ++ (behind ++ back) ∧
      (∀ c ∈ before, isBlank c) ∧ (∀ c ∈ behind, isBlank c) ∧
      (∀ c ∈ front ++ before, isBlank c) ∧ ∀ c ∈ behind ++ back, isBlank c := by
  obtain ⟨before, behind, hcs, hbefore, hbehind⟩ := exists_margins isBlank cs
  refine ⟨before, behind, hcs, ?_, hbefore, hbehind, ?_, ?_⟩
  · calc front ++ cs ++ back = front ++ (before ++ trimmed cs ++ behind) ++ back :=
        congrArg (front ++ · ++ back) hcs
      _ = (front ++ before) ++ trimmed cs ++ (behind ++ back) := by simp only [List.append_assoc]
  · exact List.forall_mem_append.mpr ⟨hfront, hbefore⟩
  · exact List.forall_mem_append.mpr ⟨hbehind, hback⟩

theorem trimmed_padded (cs : List Char) : trimmed (front ++ cs ++ back) = trimmed cs := by
  obtain ⟨before, behind, -, hpadded, -, -, hahead, hafter⟩ := exists_margins_padded hfront hback cs
  rw [hpadded]
  exact inner_append hahead hafter (bare_inner isBlank cs)

theorem margins_padded (hne : trimmed cs ≠ []) :
    margins (front ++ cs ++ back) = front ++ margins cs ++ back := by
  obtain ⟨before, behind, hcs, hpadded, hbefore, hbehind, hahead, hafter⟩ :=
    exists_margins_padded hfront hback cs
  have hbare := bare_inner isBlank cs
  have hinside := margins_append hbefore hbehind hbare hne
  rw [← trimmed_eq_inner, ← hcs] at hinside
  rw [hpadded, hinside, trimmed_eq_inner, margins_append hahead hafter hbare hne]
  simp only [List.append_assoc]

end

end ChargingRegister.Text
