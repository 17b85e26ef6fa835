import ChargingRegister.Proofs.Text.Lowercase

/-!
# The lowercase forms of parts

In the lowercase form of a text stands a form of each of its parts, where only the capital sigma
looks beyond the part. A part in which the neighbours of each sigma decide on its form keeps the
form that it has alone. Any other part has a different one behind a letter or before one, with
fewer of one of the two small sigmas.
-/
namespace ChargingRegister.Text

/-- The nearest character that counts, if there is one: is it a letter with case? -/
def nearestCased? (cs : List Char) : Option Bool :=
  (cs.dropWhile isCaseIgnorable).head?.map isCased

theorem touchesCased_eq (cs : List Char) : touchesCased cs = (nearestCased? cs).getD false := by
  rw [touchesCased, nearestCased?]
  cases cs.dropWhile isCaseIgnorable <;> rfl

theorem nearestCased?_append (cs ds : List Char) :
    nearestCased? (cs ++ ds) = (nearestCased? cs).or (nearestCased? ds) := by
  rw [nearestCased?, nearestCased?, List.dropWhile_append]
  cases cs.dropWhile isCaseIgnorable <;> rfl

def sigmaForm (before after : Option Bool) : Char :=
  if before.getD false && !after.getD false then 'ς' else 'σ'

theorem lowerBetween_sigma (before after : List Char) :
    lowerBetween before 'Σ' after = [sigmaForm (nearestCased? before) (nearestCased? after)] := by
  rw [lowerBetween, if_pos rfl, touchesCased_eq, touchesCased_eq, sigmaForm]
  split <;> rfl

theorem lowerBetween_of_ne {c : Char} (h : c ≠ 'Σ') (before after : List Char) :
    lowerBetween before c after = lowerChar c :=
  if_neg h

/-- The neighbours decide on the form of a sigma, whatever stands beyond them. -/
def Decides (before after : Option Bool) : Prop :=
  before = some false ∨ after = some true ∨ before.isSome ∧ after.isSome

instance (before after : Option Bool) : Decidable (Decides before after) :=
  inferInstanceAs (Decidable (_ ∨ _))

theorem Decides.sigmaForm_or {before after : Option Bool} (h : Decides before after)
    (farBefore farAfter : Option Bool) :
    sigmaForm (before.or farBefore) (after.or farAfter) = sigmaForm before after := by
  rcases h with rfl | rfl | ⟨hbefore, hafter⟩
  · rfl
  · simp [sigmaForm]
  · obtain ⟨b, rfl⟩ := Option.isSome_iff_exists.mp hbefore
    obtain ⟨a, rfl⟩ := Option.isSome_iff_exists.mp hafter
    rfl

/-- No neighbour before the sigma counts, or a letter does and none after it. -/
theorem open_of_not_decides {before after : Option Bool} (h : ¬ Decides before after) :
    before = none ∧ after.getD false = false ∨ before = some true ∧ after = none := by
  revert h
  rcases before with _ | _ | _ <;> rcases after with _ | _ | _ <;> decide

/-- The form of a part between what stands before it, nearest first, and after it. -/
def loweredWithin (before after : List Char) : List Char → List Char
  | [] => []
  | c :: cs => lowerBetween before c (cs ++ after) ++ loweredWithin (c :: before) after cs

theorem loweredWithin_nil (before cs : List Char) :
    loweredWithin before [] cs = lowered before cs := by
  induction cs generalizing before with
  | nil => rfl
  | cons c cs ih => rw [loweredWithin, lowered, List.append_nil, ih]

theorem loweredWithin_append (before after cs ds : List Char) :
    loweredWithin before after (cs ++ ds) =
      loweredWithin before (ds ++ after) cs ++ loweredWithin (cs.reverse ++ before) after ds := by
  induction cs generalizing before with
  | nil => rfl
  | cons c cs ih =>
    rw [List.cons_append, loweredWithin, loweredWithin, ih, List.append_assoc, List.append_assoc,
      List.reverse_cons, List.append_assoc, List.singleton_append]

/-- The form of a text holds the forms of its parts. -/
theorem loweredWithin_infix (before cs after : List Char) :
    loweredWithin before.reverse after cs <:+: lowered [] (before ++ cs ++ after) := by
  rw [← loweredWithin_nil, loweredWithin_append, loweredWithin_append, List.append_nil,
    List.append_nil]
  exact ⟨_, _, rfl⟩

/-- Within the part, each capital sigma has neighbours that decide on its form. -/
def SigmasDecided (cs : List Char) : Prop :=
  ∀ before after, cs = before ++ 'Σ' :: after →
    Decides (nearestCased? before.reverse) (nearestCased? after)

theorem sigmasDecided_iff {cs : List Char} :
    SigmasDecided cs ↔ ∀ i : Fin cs.length, cs[i] = 'Σ' →
      Decides (nearestCased? (cs.take i).reverse) (nearestCased? (cs.drop (i + 1))) := by
  constructor
  · intro h i hi
    refine h _ _ ?_
    rw [← hi]
    simp
  · rintro h before after rfl
    have hi := h ⟨before.length, by simp⟩
    simpa using hi

instance (cs : List Char) : Decidable (SigmasDecided cs) :=
  decidable_of_iff' _ sigmasDecided_iff

example : SigmasDecided "ΣΟΦΟΣ 1".toList := by decide +kernel

example : ¬ SigmasDecided "ΣΟΦΟΣ".toList := by decide +kernel

theorem SigmasDecided.loweredWithin_eq {cs : List Char} (h : SigmasDecided cs)
    (before after : List Char) : loweredWithin before after cs = lowered [] cs := by
  -- the part is cut where the recursion stands
  have hrest : ∀ done rest, cs = done ++ rest →
      loweredWithin (done.reverse ++ before) after rest = lowered done.reverse rest := by
    intro done rest
    induction rest generalizing done with
    | nil => exact fun _ => rfl
    | cons c rest ih =>
      intro hcs
      have hform : lowerBetween (done.reverse ++ before) c (rest ++ after) =
          lowerBetween done.reverse c rest := by
        by_cases hc : c = 'Σ'
        · subst hc
          rw [lowerBetween_sigma, lowerBetween_sigma, nearestCased?_append, nearestCased?_append,
            (h done rest hcs).sigmaForm_or]
        · rw [lowerBetween_of_ne hc, lowerBetween_of_ne hc]
      have hih := ih (done ++ [c]) (by rw [hcs, List.append_assoc, List.singleton_append])
      rw [List.reverse_append, List.reverse_singleton] at hih
      rw [loweredWithin, lowered, hform]
      exact congrArg _ hih
  exact hrest [] cs rfl

/-- A text contains the lowercase form of a part with decided sigmas. -/
theorem SigmasDecided.lowered_infix {cs text : List Char} (h : SigmasDecided cs)
    (hcs : cs <:+: text) : lowered [] cs <:+: lowered [] text := by
  obtain ⟨before, after, rfl⟩ := hcs
  rw [← h.loweredWithin_eq before.reverse after]
  exact loweredWithin_infix before cs after

section

variable {d : Char} {before after : List Char}
  (h : ∀ b a, sigmaForm (b.or (nearestCased? before)) (a.or (nearestCased? after)) = d →
    sigmaForm b a = d)
include h

/-- Surroundings that turn no sigma into a certain one make that one no more frequent. -/
theorem count_loweredWithin_le (near far cs : List Char) :
    (loweredWithin (near ++ before) (far ++ after) cs).count d ≤
      (loweredWithin near far cs).count d := by
  induction cs generalizing near with
  | nil => exact Nat.le_refl 0
  | cons c cs ih =>
    have hform : (lowerBetween (near ++ before) c (cs ++ (far ++ after))).count d ≤
        (lowerBetween near c (cs ++ far)).count d := by
      by_cases hc : c = 'Σ'
      · subst hc
        rw [lowerBetween_sigma, lowerBetween_sigma, ← List.append_assoc, nearestCased?_append,
          nearestCased?_append (cs ++ far)]
        by_cases hwithin : sigmaForm ((nearestCased? near).or (nearestCased? before))
            ((nearestCased? (cs ++ far)).or (nearestCased? after)) = d
        · exact Nat.le_of_eq (by rw [h _ _ hwithin, hwithin])
        · rw [List.count_singleton, if_neg (by simpa using hwithin)]
          exact Nat.zero_le _
      · exact Nat.le_of_eq (by rw [lowerBetween_of_ne hc, lowerBetween_of_ne hc])
    have hrest := ih (c :: near)
    rw [List.cons_append] at hrest
    rw [loweredWithin, loweredWithin, List.count_append, List.count_append]
    omega

theorem count_loweredWithin_lt {near far : List Char}
    (halone : sigmaForm (nearestCased? near.reverse) (nearestCased? far) = d)
    (hwithin : sigmaForm ((nearestCased? near.reverse).or (nearestCased? before))
      ((nearestCased? far).or (nearestCased? after)) ≠ d) :
    (loweredWithin before after (near ++ 'Σ' :: far)).count d <
      (lowered [] (near ++ 'Σ' :: far)).count d := by
  -- the form is cut at the sigma that changes; elsewhere nothing is gained
  have hsplit : ∀ b a, (loweredWithin b a (near ++ 'Σ' :: far)).count d =
      (loweredWithin b ('Σ' :: far ++ a) near).count d +
        ([sigmaForm (nearestCased? (near.reverse ++ b)) (nearestCased? (far ++ a))].count d +
          (loweredWithin ('Σ' :: near.reverse ++ b) a far).count d) := by
    intro b a
    rw [loweredWithin_append, loweredWithin, lowerBetween_sigma, List.count_append,
      List.count_append]
    rfl
  have hnear := count_loweredWithin_le h [] ('Σ' :: far) near
  have hfar := count_loweredWithin_le h ('Σ' :: near.reverse) [] far
  rw [List.nil_append] at hnear hfar
  rw [← loweredWithin_nil, hsplit, hsplit, nearestCased?_append, nearestCased?_append,
    List.append_nil, List.append_nil, List.append_nil, List.append_nil, halone,
    List.count_singleton_self, List.count_singleton, if_neg (by simpa using hwithin)]
  omega

end

/-- A part with a sigma that is not decided loses a small sigma behind a letter, or before one. -/
theorem count_lowered_lt {cs : List Char} (h : ¬ SigmasDecided cs) :
    (lowered [] ('a' :: cs)).count 'σ' < (lowered [] cs).count 'σ' ∨
      (lowered [] (cs ++ ['a'])).count 'ς' < (lowered [] cs).count 'ς' := by
  have ha : nearestCased? ['a'] = some true := by decide +kernel
  have hbehind : lowered [] ('a' :: cs) = 'a' :: loweredWithin ['a'] [] cs := by
    rw [loweredWithin_nil]
    rfl
  have hbefore : lowered [] (cs ++ ['a']) = loweredWithin [] ['a'] cs ++ ['a'] := by
    rw [← loweredWithin_nil, loweredWithin_append]
    rfl
  simp only [SigmasDecided, Classical.not_forall] at h
  obtain ⟨near, far, rfl, hopen⟩ := h
  rw [hbehind, hbefore, List.count_cons_of_ne (by decide), List.count_append,
    List.count_singleton, if_neg (by decide)]
  -- a letter in front makes the sigma a final one, a letter behind makes it an inner one
  rcases open_of_not_decides hopen with ⟨hnear, hfar⟩ | ⟨hnear, hfar⟩
  · refine .inl (count_loweredWithin_lt ?_ ?_ ?_)
    · rw [ha]
      rintro (_ | _ | _) (_ | _ | _) <;> decide
    · rw [hnear]
      rfl
    · have hend : nearestCased? [] = none := rfl
      rw [hnear, ha, hend, Option.or_none, sigmaForm, hfar]
      decide
  · refine .inr (count_loweredWithin_lt ?_ ?_ ?_)
    · rw [ha]
      rintro (_ | _ | _) (_ | _ | _) <;> decide
    · rw [hnear, hfar]
      rfl
    · rw [hnear, hfar, ha]
      decide

end ChargingRegister.Text
