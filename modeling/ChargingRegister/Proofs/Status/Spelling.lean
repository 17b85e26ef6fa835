import ChargingRegister.Status
import ChargingRegister.Proofs.Text.Blank
import ChargingRegister.Proofs.Text.Lowercase
import Mathlib.Data.Option.Basic

/-!
# Which texts denote a status

Operators write the words of a status with spaces, dashes or underscores between them, in any case
and with blanks around. The spelling of a text forgets all three, and a text denotes the status
whose token is spelled like it.

What an operator types is tried twice, as it is and with underscores for separators. The second
attempt changes the text before it is trimmed, so a space around the text becomes an underscore
that stays. The attempts therefore miss the texts with such a space that need the second of them,
and no other text.
-/
namespace ChargingRegister.Status

/-- A dash or a space becomes an underscore. -/
def separated (c : Char) : Char :=
  if c = '-' ∨ c = ' ' then '_' else c

/-- Separators and the case of ASCII letters are forgotten. -/
def spelling (cs : List Char) : List Char :=
  (underscored cs).map Char.toLower

/-- The trimmed text is spelled like the token of the status. -/
def Denotes (text : String) (s : Status) : Prop :=
  spelling (Text.trimmed text.toList) = spelling s.token.toList

instance (text : String) (s : Status) : Decidable (Denotes text s) :=
  inferInstanceAs (Decidable (_ = _))

/-- The words of the longest status with separators of neither the token nor the label, and a
space around them. -/
def Misspaced (text : String) : Prop :=
  Denotes text .outOfService ∧
    isNamedBy (Text.trimmed text.toList) .outOfService = false ∧ ' ' ∈ Text.margins text.toList

instance (text : String) : Decidable (Misspaced text) := inferInstanceAs (Decidable (_ ∧ _))

theorem underscored_eq_map (cs : List Char) : underscored cs = cs.map separated := rfl

theorem separated_separated (c : Char) : separated (separated c) = separated c := by
  by_cases h : c = '-' ∨ c = ' '
  · rcases h with rfl | rfl <;> rfl
  · simp only [separated, if_neg h]

/-- Letters stay letters and separators stay separators, so the order does not matter. -/
theorem toLower_separated (c : Char) : (separated c).toLower = separated c.toLower := by
  by_cases h : c = '-' ∨ c = ' '
  · rcases h with rfl | rfl <;> rfl
  · have hlower : ¬ (c.toLower = '-' ∨ c.toLower = ' ') := by
      have hdash : '-'.toNat = 45 := rfl
      have hspace : ' '.toNat = 32 := rfl
      simp only [← Char.toNat_inj, Text.toNat_toLower] at h ⊢
      split <;> omega
    rw [separated, separated, if_neg h, if_neg hlower]

theorem spelling_underscored (cs : List Char) : spelling (underscored cs) = spelling cs := by
  simp only [spelling, underscored_eq_map, List.map_map]
  exact List.map_congr_left fun c _ => congrArg Char.toLower (separated_separated c)

theorem spelling_eq_map (cs : List Char) :
    spelling cs = cs.map fun c => (separated c).toLower := by
  rw [spelling, underscored_eq_map, List.map_map]
  rfl

theorem spelling_eq_underscored (cs : List Char) :
    spelling cs = underscored (cs.map Char.toLower) := by
  simp only [spelling, underscored_eq_map, List.map_map]
  exact List.map_congr_left fun c _ => toLower_separated c

theorem spelling_label (s : Status) : spelling s.label.toList = spelling s.token.toList := by
  cases s <;> decide

theorem spelling_token_injective {s t : Status}
    (h : spelling s.token.toList = spelling t.token.toList) : s = t := by
  revert h
  cases s <;> cases t <;> decide

theorem Denotes.unique {text : String} {s t : Status} (hs : Denotes text s) (ht : Denotes text t) :
    s = t :=
  spelling_token_injective (hs.symm.trans ht)

section

variable {cs : List Char} {s t : Status}

theorem isNamedBy_iff : isNamedBy cs s = true ↔
    s.token.toList.map Char.toLower = cs.map Char.toLower ∨
      s.label.toList.map Char.toLower = cs.map Char.toLower := by
  simp only [isNamedBy, sameLetters, Bool.or_eq_true, beq_iff_eq]

theorem spelling_of_isNamedBy (h : isNamedBy cs s = true) :
    spelling cs = spelling s.token.toList := by
  rcases isNamedBy_iff.mp h with h | h
  · rw [spelling_eq_underscored, spelling_eq_underscored, h]
  · rw [← spelling_label, spelling_eq_underscored, spelling_eq_underscored, h]

theorem isNamedBy_underscored_iff :
    isNamedBy (underscored cs) s = true ↔ spelling cs = spelling s.token.toList := by
  constructor
  · intro h
    rw [← spelling_underscored]
    exact spelling_of_isNamedBy h
  · intro h
    have htoken : spelling s.token.toList = s.token.toList.map Char.toLower := by
      cases s <;> decide
    exact isNamedBy_iff.mpr (.inl (htoken.symm.trans h.symm))

theorem ofChars?_eq_some_iff :
    ofChars? cs = some s ↔ isNamedBy (Text.trimmed cs) s = true := by
  constructor
  · exact fun h => List.find?_some h
  · intro h
    cases hfound : ofChars? cs with
    | none => exact absurd h (List.find?_eq_none.mp hfound s (mem_all s))
    | some t =>
      have ht : isNamedBy (Text.trimmed cs) t = true := List.find?_some hfound
      rw [spelling_token_injective ((spelling_of_isNamedBy ht).symm.trans (spelling_of_isNamedBy h))]

theorem spelling_eq_lower (h : '_' ∉ spelling cs) : spelling cs = cs.map Char.toLower := by
  rw [spelling_eq_map] at h ⊢
  refine List.map_congr_left fun c hc => ?_
  have hplain : ¬ (c = '-' ∨ c = ' ') := by
    intro hsep
    refine h (List.mem_map.mpr ⟨c, hc, ?_⟩)
    rw [separated, if_pos hsep]
    rfl
  rw [separated, if_neg hplain]

/-- The words of the two other statuses have no separators to choose. -/
theorem isNamedBy_of_spelling (h : spelling cs = spelling s.token.toList)
    (hs : s ≠ .outOfService) : isNamedBy cs s = true := by
  have htoken : '_' ∉ spelling s.token.toList := by
    revert hs
    cases s <;> decide
  refine isNamedBy_iff.mpr (.inl ?_)
  rw [← spelling_eq_lower htoken, ← h, spelling_eq_lower (h ▸ htoken)]

/-- Blanks and underscores, one of which every blank is spelled as. -/
def isGap (c : Char) : Bool :=
  Text.isBlank c || c == '_'

theorem isGap_of_blank {c : Char} (h : Text.isBlank c = true) :
    isGap (separated c).toLower = true := by
  by_cases hsep : c = '-' ∨ c = ' '
  · rw [separated, if_pos hsep]
    rfl
  · have hlower : c.toLower = c := by
      rw [Text.toLower_eq_self_iff]
      intro hcap
      simp only [Text.isBlank, Bool.or_eq_true, Bool.and_eq_true, decide_eq_true_eq,
        beq_iff_eq] at h
      omega
    rw [separated, if_neg hsep, hlower, isGap, h, Bool.true_or]

theorem bare_spelling_token (s : Status) : Text.Bare isGap (spelling s.token.toList) := by
  cases s <;> exact Text.bare_of_any (by decide) (by decide)

theorem bare_of_spelling (h : spelling cs = spelling s.token.toList) :
    Text.Bare (isGap ∘ fun c => (separated c).toLower) cs := by
  refine Text.Bare.of_map ?_
  rw [← spelling_eq_map, h]
  exact bare_spelling_token s

theorem bare_blank_of_spelling (h : spelling cs = spelling s.token.toList) :
    Text.Bare Text.isBlank cs :=
  (bare_of_spelling h).mono fun _ hc =>
    Bool.eq_false_iff.mpr fun hblank => Bool.eq_false_iff.mp hc (isGap_of_blank hblank)

theorem ne_nil_of_spelling (h : spelling cs = spelling s.token.toList) : cs ≠ [] := by
  rintro rfl
  revert h
  cases s <;> decide

theorem Denotes.head?_ne_dash {text : String} (h : Denotes text s) :
    text.toList.head? ≠ some '-' := by
  intro hdash
  obtain ⟨cs, hcs⟩ := List.head?_eq_some_iff.mp hdash
  obtain ⟨rest, hrest⟩ := List.rdropWhile_prefix Text.isBlank ('-' :: cs)
  have htrimmed : Text.trimmed text.toList = ('-' :: cs).rdropWhile Text.isBlank := by
    rw [hcs]
    rfl
  have hhead := (bare_of_spelling h).head '-' (by
    obtain ⟨c, left, hleft⟩ := List.exists_cons_of_ne_nil (ne_nil_of_spelling h)
    rw [← htrimmed, hleft] at hrest
    rw [hleft, List.head_eq_of_cons_eq hrest]
    rfl)
  exact Bool.false_ne_true hhead.symm

/-- With underscores for spaces, trimming takes all blanks but the space away. -/
theorem blank_separated_iff {c : Char} :
    (Text.isBlank ∘ separated) c = true ↔ Text.isBlank c = true ∧ c ≠ ' ' := by
  by_cases hsep : c = '-' ∨ c = ' '
  · rcases hsep with rfl | rfl <;> decide
  · rw [Function.comp_apply, separated, if_neg hsep]
    exact (and_iff_left fun hspace => hsep (.inr hspace)).symm

/-- Changing the text before trimming it tells on texts with a space around them, and on no other
text. -/
theorem spelling_inner_iff :
    spelling (Text.inner (Text.isBlank ∘ separated) cs) = spelling s.token.toList ↔
      spelling (Text.trimmed cs) = spelling s.token.toList ∧ ' ' ∉ Text.margins cs := by
  constructor
  -- the words begin and end with letters, so no space is left beside them
  · intro h
    obtain ⟨front, back, hcs, hfront, hback⟩ := Text.exists_margins (Text.isBlank ∘ separated) cs
    have hbare := bare_blank_of_spelling h
    have hmargins := Text.margins_append (fun c hc => (blank_separated_iff.mp (hfront c hc)).1)
      (fun c hc => (blank_separated_iff.mp (hback c hc)).1) hbare (ne_nil_of_spelling h)
    have htrimmed := Text.inner_append (fun c hc => (blank_separated_iff.mp (hfront c hc)).1)
      (fun c hc => (blank_separated_iff.mp (hback c hc)).1) hbare
    rw [← hcs] at hmargins htrimmed
    rw [Text.trimmed_eq_inner, htrimmed, hmargins, List.mem_append]
    refine ⟨h, ?_⟩
    rintro (hspace | hspace)
    · exact (blank_separated_iff.mp (hfront ' ' hspace)).2 rfl
    · exact (blank_separated_iff.mp (hback ' ' hspace)).2 rfl
  -- margins without a space are cut off before and after the change alike
  · rintro ⟨h, hspace⟩
    obtain ⟨front, back, hcs, hfront, hback⟩ := Text.exists_margins Text.isBlank cs
    rw [← Text.trimmed_eq_inner] at hcs
    have hbare := bare_blank_of_spelling h
    have hmargins := Text.margins_append hfront hback hbare (ne_nil_of_spelling h)
    rw [← hcs] at hmargins
    have hnarrow : Text.Bare (Text.isBlank ∘ separated) (Text.trimmed cs) :=
      hbare.mono fun c hc => Bool.eq_false_iff.mpr fun hkept =>
        Bool.eq_false_iff.mp hc (blank_separated_iff.mp hkept).1
    have hinner : Text.inner (Text.isBlank ∘ separated) (front ++ Text.trimmed cs ++ back) =
        Text.trimmed cs := by
      refine Text.inner_append (fun c hc => ?_) (fun c hc => ?_) hnarrow
      · exact blank_separated_iff.mpr ⟨hfront c hc, fun heq => hspace
          (hmargins ▸ List.mem_append_left back (heq ▸ hc))⟩
      · exact blank_separated_iff.mpr ⟨hback c hc, fun heq => hspace
          (hmargins ▸ List.mem_append_right front (heq ▸ hc))⟩
    rw [← hcs] at hinner
    rw [hinner]
    exact h

theorem ofChars?_underscored_iff : ofChars? (underscored cs) = some s ↔
    spelling (Text.trimmed cs) = spelling s.token.toList ∧ ' ' ∉ Text.margins cs := by
  rw [ofChars?_eq_some_iff, Text.trimmed_eq_inner, underscored_eq_map, Text.inner_map,
    ← underscored_eq_map, isNamedBy_underscored_iff, spelling_inner_iff]

end

theorem ofArgument?_eq_some_iff {text : String} {s : Status} : ofArgument? text = some s ↔
    isNamedBy (Text.trimmed text.toList) s = true ∨
      Denotes text s ∧ ' ' ∉ Text.margins text.toList := by
  rw [ofArgument?, Option.orElse_eq_some, ofChars?_underscored_iff, ← ofChars?_eq_some_iff]
  refine or_congr_right' fun hfirst => and_iff_right_of_imp fun hsecond => ?_
  -- were the text another status as it is, it would denote two
  refine Option.eq_none_iff_forall_ne_some.mpr fun t ht => hfirst ?_
  have hdenotes : Denotes text t := spelling_of_isNamedBy (ofChars?_eq_some_iff.mp ht)
  rw [ht, hdenotes.unique hsecond.1]

theorem ofArgument?_iff {text : String} {s : Status} :
    ofArgument? text = some s ↔ Denotes text s ∧ ¬ Misspaced text := by
  rw [ofArgument?_eq_some_iff]
  constructor
  · rintro (hnamed | ⟨hdenotes, hspace⟩)
    · have hdenotes : Denotes text s := spelling_of_isNamedBy hnamed
      refine ⟨hdenotes, fun hbad => ?_⟩
      rw [hdenotes.unique hbad.1, hbad.2.1] at hnamed
      exact Bool.false_ne_true hnamed
    · exact ⟨hdenotes, fun hbad => hspace hbad.2.2⟩
  · rintro ⟨hdenotes, hgood⟩
    cases hnamed : isNamedBy (Text.trimmed text.toList) s with
    | true => exact .inl rfl
    | false =>
      refine .inr ⟨hdenotes, fun hspace => hgood ?_⟩
      have hs : s = .outOfService := by
        by_contra hother
        rw [isNamedBy_of_spelling hdenotes hother] at hnamed
        exact Bool.false_ne_true hnamed.symm
      subst hs
      exact ⟨hdenotes, hnamed, hspace⟩

section

variable {front back : String} (hfront : ∀ c ∈ front.toList, Text.isBlank c = true ∧ c ≠ ' ')
  (hback : ∀ c ∈ back.toList, Text.isBlank c = true ∧ c ≠ ' ') (text : String)

include hfront hback

theorem trimmed_toList_padded :
    Text.trimmed (front ++ text ++ back).toList = Text.trimmed text.toList := by
  rw [String.toList_append, String.toList_append]
  exact Text.trimmed_padded (fun c hc => (hfront c hc).1) (fun c hc => (hback c hc).1) _

/-- Blanks other than the space do no harm around a text. -/
theorem misspaced_padded_iff : Misspaced (front ++ text ++ back) ↔ Misspaced text := by
  rw [Misspaced, Misspaced, Denotes, Denotes, trimmed_toList_padded hfront hback]
  refine and_congr_right fun hdenotes => and_congr_right fun _ => ?_
  have hmargins := Text.margins_padded (fun c hc => (hfront c hc).1) (fun c hc => (hback c hc).1)
    (ne_nil_of_spelling hdenotes)
  rw [String.toList_append, String.toList_append, hmargins, List.mem_append, List.mem_append]
  constructor
  · rintro ((hspace | hspace) | hspace)
    · exact absurd rfl (hfront ' ' hspace).2
    · exact hspace
    · exact absurd rfl (hback ' ' hspace).2
  · exact fun hspace => .inl (.inr hspace)

end

theorem readArgument_eq_ok_iff {text : String} {s : Status} :
    readArgument text = .ok s ↔ ofArgument? text = some s := by
  unfold readArgument
  cases ofArgument? text <;> simp

theorem unrecognised_eq (text : String) : unrecognised text =
    "unknown status '" ++ text ++ "', expected one of: Available, Charging, Out of service" := by
  have hlabels : "', expected one of: " ++ String.intercalate ", " (all.map label) =
      "', expected one of: Available, Charging, Out of service" := by decide
  refine String.append_assoc.trans ?_
  rw [hlabels]

theorem readArgument_of_none {text : String} (h : ∀ s, readArgument text ≠ .ok s) :
    readArgument text = .error ("unknown status '" ++ text ++
      "', expected one of: Available, Charging, Out of service") := by
  have hnone : ofArgument? text = none :=
    Option.eq_none_iff_forall_ne_some.mpr fun s hs => h s (readArgument_eq_ok_iff.mpr hs)
  rw [readArgument, hnone, ← unrecognised_eq]

/-- An operator's text is read as the status that it denotes, and quoted in the complaint when it
denotes none. The one exception are the words of the longest status with mixed separators or with
dashes, between spaces. Apart from it, texts that are spelled alike are read alike; blanks other
than the space never matter around a text. -/
theorem readArgument_right_iff (text : String) :
    ((∀ s, readArgument text = .ok s ↔ Denotes text s) ↔ ¬ Misspaced text) ∧
    (∀ s, readArgument text = .ok s ↔ Denotes text s ∧ ¬ Misspaced text) ∧
    ((∀ s, ¬ (Denotes text s ∧ ¬ Misspaced text)) →
      readArgument text = .error ("unknown status '" ++ text ++
        "', expected one of: Available, Charging, Out of service")) ∧
    (∀ s t, Denotes text s → Denotes text t → s = t) ∧
    (∀ other, spelling (Text.trimmed other.toList) = spelling (Text.trimmed text.toList) →
      ¬ Misspaced text → ¬ Misspaced other →
      ∀ s, readArgument other = .ok s ↔ readArgument text = .ok s) ∧
    ∀ front back : String, (∀ c ∈ front.toList, Text.isBlank c = true ∧ c ≠ ' ') →
      (∀ c ∈ back.toList, Text.isBlank c = true ∧ c ≠ ' ') →
      ∀ s, readArgument (front ++ text ++ back) = .ok s ↔ readArgument text = .ok s := by
  have hread : ∀ text s, readArgument text = .ok s ↔ Denotes text s ∧ ¬ Misspaced text :=
    fun _ _ => readArgument_eq_ok_iff.trans ofArgument?_iff
  refine ⟨?_, hread text, ?_, fun s t => Denotes.unique, ?_, ?_⟩
  · constructor
    · intro hall hbad
      exact ((hread text _).mp ((hall _).mpr hbad.1)).2 hbad
    · intro hgood s
      rw [hread text s, and_iff_left hgood]
  · intro hnone
    exact readArgument_of_none fun s hs => hnone s ((hread text s).mp hs)
  · intro other halike htext hother s
    rw [hread, hread, and_iff_left htext, and_iff_left hother, Denotes, Denotes, halike]
  · intro front back hfront hback s
    rw [hread, hread, misspaced_padded_iff hfront hback, Denotes, Denotes,
      trimmed_toList_padded hfront hback]

/-- Tabs around the words, or spaces around the label, do no harm; spaces around the words with
dashes do. -/
theorem readArgument_wrong_between_spaces :
    Denotes " out-of-service " .outOfService ∧
    readArgument " out-of-service " = .error
      "unknown status ' out-of-service ', expected one of: Available, Charging, Out of service" ∧
    readArgument "\tout-of-service\t" = .ok .outOfService ∧
    readArgument " Out of service " = .ok .outOfService := by
  decide

end ChargingRegister.Status
