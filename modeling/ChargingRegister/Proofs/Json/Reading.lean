import ChargingRegister.Json.Reader
import ChargingRegister.Proofs.Decimal
import Mathlib.Data.List.TakeWhile

/-!
# Printed JSON is read back

A value whose texts are all texts and whose numbers are all whole is printed in a form that the
reader takes for this value and no other, whatever blanks follow. The bound of the reader is met by
the length of the printed form: every entry of an array or an object pays for its own reader with
the line break before it.
-/
namespace ChargingRegister.Json

theorem skip_append {space : List Char} (h : ∀ c ∈ space, isSpace c = true) (cs : List Char) :
    skip (space ++ cs) = skip cs :=
  List.dropWhile_append_of_pos h

theorem skip_cons {c : Char} (h : isSpace c = false) (cs : List Char) : skip (c :: cs) = c :: cs :=
  List.dropWhile_cons_of_neg (Bool.eq_false_iff.mp h)

theorem skip_of_spaces {space : List Char} (h : ∀ c ∈ space, isSpace c = true) : skip space = [] :=
  List.dropWhile_eq_nil_iff.mpr h

theorem isSpace_of_mem_lineBreak {depth : Nat} {c : Char} (h : c ∈ (lineBreak depth).toList) :
    isSpace c = true := by
  rw [lineBreak, String.toList_ofList, List.mem_cons] at h
  rcases h with rfl | h
  · rfl
  · rw [List.eq_of_mem_replicate h]
    rfl

section

variable {space : List Char} (h : ∀ c ∈ space, isSpace c = true) (fuel : Nat) (cs : List Char)
include h

theorem value?_append : value? fuel (space ++ cs) = value? fuel cs := by
  cases fuel with
  | zero => rfl
  | succ fuel => rw [value?, value?, skip_append h]

theorem items?_append (done : List Json) :
    items? fuel done (space ++ cs) = items? fuel done cs := by
  cases fuel with
  | zero => rfl
  | succ fuel => rw [items?, items?, value?_append h]

theorem memberList?_append (done : List (Option String × Json)) :
    memberList? fuel done (space ++ cs) = memberList? fuel done cs := by
  cases fuel with
  | zero => rfl
  | succ fuel => rw [memberList?, memberList?, skip_append h]

end

theorem items?_skip (fuel : Nat) (done : List Json) (cs : List Char) :
    items? fuel done (skip cs) = items? fuel done cs := by
  have hspace : ∀ c ∈ cs.takeWhile isSpace, isSpace c = true :=
    fun _ hc => List.mem_takeWhile_imp hc
  rw [skip, ← items?_append hspace, List.takeWhile_append_dropWhile]

theorem unit?_of_lt {n : Nat} (h : n < 0x20) :
    unit? '0' '0' (hexDigit (n / 16)) (hexDigit (n % 16)) = some n := by
  have hall : ∀ n < 0x20, unit? '0' '0' (hexDigit (n / 16)) (hexDigit (n % 16)) = some n := by
    decide
  exact hall n h

/-- The character stands for itself between quotes. -/
def IsLiteral (c : Char) : Prop :=
  c ≠ '"' ∧ c ≠ '\\' ∧ 0x20 ≤ c.toNat

/-- A character is written as it is, or as an escape that denotes it. -/
theorem escaped_cases (c : Char) :
    (escaped c = [c] ∧ IsLiteral c) ∨
      ∃ code, escaped c = '\\' :: code ∧ ∀ rest, escape? (code ++ rest) = some (some c, rest) := by
  unfold escaped
  split
  case h_8 hquote hbackslash _ _ _ _ _ =>
    split
    case isTrue hcontrol =>
      refine .inr ⟨_, rfl, fun rest => ?_⟩
      have hunit := unit?_of_lt hcontrol
      simp only [List.cons_append, List.nil_append, escape?, hunit]
      rw [if_neg (by omega), if_neg (by omega), Char.ofNat_toNat]
    case isFalse hplain => exact .inl ⟨rfl, hquote, hbackslash, Nat.not_lt.mp hplain⟩
  all_goals exact .inr ⟨_, rfl, fun rest => rfl⟩

section

variable {c : Char} {done cs : List Char} {whole : Bool}

theorem stringRest?_quote :
    stringRest? done whole ('"' :: cs) =
      some (if whole then some (String.ofList done.reverse) else none, cs) := by
  rw [stringRest?, if_pos rfl]

theorem stringRest?_literal (h : IsLiteral c) :
    stringRest? done whole (c :: cs) = stringRest? (c :: done) whole cs := by
  rw [stringRest?, if_neg h.1, if_neg h.2.1, if_neg (Nat.not_lt.mpr h.2.2)]

theorem stringRest?_escape {rest : List Char} (h : escape? cs = some (some c, rest)) :
    stringRest? done whole ('\\' :: cs) = stringRest? (c :: done) whole rest := by
  rw [stringRest?, if_neg (by decide), if_pos rfl]
  split
  case h_1 heq =>
    cases h.symm.trans heq
    rfl
  case h_2 heq => cases h.symm.trans heq
  case h_3 heq => cases h.symm.trans heq

theorem stringRest?_escaped (c : Char) :
    stringRest? done whole (escaped c ++ cs) = stringRest? (c :: done) whole cs := by
  rcases escaped_cases c with ⟨heq, hliteral⟩ | ⟨code, heq, hcode⟩
  · rw [heq]
    exact stringRest?_literal hliteral
  · rw [heq, List.cons_append]
    exact stringRest?_escape (hcode cs)

end

theorem stringRest?_flatMap (done cs rest : List Char) :
    stringRest? done true (cs.flatMap escaped ++ '"' :: rest) =
      some (some (String.ofList (done.reverse ++ cs)), rest) := by
  induction cs generalizing done with
  | nil => rw [List.flatMap_nil, List.nil_append, stringRest?_quote, if_pos rfl, List.append_nil]
  | cons c cs ih =>
    rw [List.flatMap_cons, List.append_assoc, stringRest?_escaped, ih, List.reverse_cons,
      List.append_assoc, List.singleton_append]

theorem toList_quoted (s : String) (rest : List Char) :
    (quoted s).toList ++ rest = '"' :: (s.toList.flatMap escaped ++ '"' :: rest) := by
  rw [quoted, String.toList_ofList, List.cons_append, List.cons_append, List.append_assoc,
    List.singleton_append]

theorem string?_quoted (s : String) (rest : List Char) :
    string? (s.toList.flatMap escaped ++ '"' :: rest) = some (some s, rest) := by
  rw [string?, stringRest?_flatMap, List.reverse_nil, List.nil_append, String.ofList_toList]

/-- Nothing at the front belongs to a value before it. -/
def Delimits (rest : List Char) : Prop :=
  ∀ c ∈ rest.head?, c = ',' ∨ isSpace c = true

theorem delimits_of_spaces {space : List Char} (h : ∀ c ∈ space, isSpace c = true) :
    Delimits space :=
  fun c hc => .inr (h c (List.mem_of_mem_head? hc))

theorem delimits_cons {c : Char} (h : c = ',' ∨ isSpace c = true) (cs : List Char) :
    Delimits (c :: cs) := by
  rintro d hd
  cases hd
  exact h

theorem Delimits.head?_ne {rest : List Char} (h : Delimits rest) {c : Char} (hcomma : c ≠ ',')
    (hspace : isSpace c = false) : rest.head? ≠ some c := by
  intro hc
  rcases h c hc with rfl | hblank
  · exact hcomma rfl
  · rw [hspace] at hblank
    cases hblank

section

variable {rest : List Char} (h : Delimits rest)
include h

theorem digits?_append {digits : List Char} (hne : digits ≠ [])
    (hdigits : ∀ c ∈ digits, Decimal.isDigit c = true) :
    digits? (digits ++ rest) = some (digits, rest) := by
  have hstop : rest.takeWhile Decimal.isDigit = [] := by
    cases rest with
    | nil => rfl
    | cons c rest =>
      refine List.takeWhile_cons_of_neg ?_
      rcases h c rfl with rfl | hspace
      · decide
      · intro hdigit
        simp only [isSpace, Bool.or_eq_true, beq_iff_eq] at hspace
        rcases hspace with ((rfl | rfl) | rfl) | rfl <;> revert hdigit <;> decide
  rw [digits?, List.takeWhile_append_of_pos hdigits, hstop, List.append_nil]
  simp only [List.isEmpty_iff, hne, if_false, List.drop_left]

theorem fractionPart?_of_delimits : fractionPart? rest = some ([], rest) := by
  unfold fractionPart?
  split
  case h_1 => exact absurd rfl (h.head?_ne (by decide) (by decide))
  case h_2 => rfl

theorem exponentPart?_of_delimits : exponentPart? rest = some ([], rest) := by
  unfold exponentPart?
  split
  case h_1 => rfl
  case h_2 c cs =>
    rw [if_neg]
    rintro (rfl | rfl) <;> exact absurd rfl (h.head?_ne (by decide) (by decide))

theorem magnitude?_toDigits (n : Nat) :
    magnitude? (Nat.toDigits 10 n ++ rest) = some (Nat.toDigits 10 n, rest) := by
  have hdigits := digits?_append h (List.length_pos_iff.mp Nat.length_toDigits_pos)
    fun c hc => Decimal.isDigit_of_mem_toDigits (n := n) hc
  have hwhole : wholePart? (Nat.toDigits 10 n ++ rest) = some (Nat.toDigits 10 n, rest) := by
    unfold wholePart?
    split
    case h_1 heq =>
      rw [hdigits] at heq
      rcases Nat.eq_zero_or_pos n with rfl | hpos
      · cases heq
      · have hhead := Decimal.head?_toDigits_ne hpos
        rw [(Prod.mk.inj (Option.some.inj heq)).1] at hhead
        exact absurd rfl hhead
    case h_2 => exact hdigits
  simp only [magnitude?, hwhole, fractionPart?_of_delimits h, exponentPart?_of_delimits h,
    Option.bind_eq_bind, Option.bind_some, List.append_nil, Option.pure_def]

theorem number?_ofInt (n : Int) :
    number? ((Decimal.ofInt n).toList ++ rest) = some ((Decimal.ofInt n).toList, rest) := by
  rcases Int.lt_or_le n 0 with hneg | hpos
  · rw [Decimal.toList_ofInt_of_neg hneg, List.cons_append, number?, magnitude?_toDigits h]
    rfl
  · obtain ⟨c, cs, hdigits, hall⟩ := Decimal.exists_digits n.toNat
    have hsign := (Decimal.ne_sign_of_isDigit (hall c List.mem_cons_self)).1
    rw [Decimal.toList_ofInt_of_nonneg hpos]
    unfold number?
    split
    case h_1 heq =>
      rw [hdigits, List.cons_append] at heq
      exact absurd (List.cons.inj heq).1 hsign
    case h_2 => exact magnitude?_toDigits h n.toNat

end

theorem value?_number {rest : List Char} (h : Delimits rest) (n : Int) (fuel : Nat) :
    value? (fuel + 1) ((Decimal.ofInt n).toList ++ rest) = some (.ofInt n, rest) := by
  have hshape : ∃ c cs, (Decimal.ofInt n).toList = c :: cs ∧
      (c = '-' ∨ Decimal.isDigit c = true) := by
    rcases Int.lt_or_le n 0 with hneg | hpos
    · exact ⟨_, _, Decimal.toList_ofInt_of_neg hneg, .inl rfl⟩
    · obtain ⟨c, cs, hdigits, hall⟩ := Decimal.exists_digits n.toNat
      rw [Decimal.toList_ofInt_of_nonneg hpos]
      exact ⟨c, cs, hdigits, .inr (hall c List.mem_cons_self)⟩
  obtain ⟨c, cs, hcs, hc⟩ := hshape
  have hne : ∀ d, d ≠ '-' → Decimal.isDigit d = false → c ≠ d := by
    rintro d hsign hdigit rfl
    rcases hc with hc | hc
    · exact hsign hc
    · rw [hdigit] at hc
      cases hc
  have hspace : isSpace c = false := by
    simp [isSpace, hne ' ' (by decide) rfl, hne '\t' (by decide) rfl, hne '\n' (by decide) rfl,
      hne '\r' (by decide) rfl]
  have hread := number?_ofInt h n
  rw [hcs, List.cons_append] at hread ⊢
  rw [value?, skip_cons hspace]
  split
  case h_7 =>
    rw [hread, ← hcs]
    show some (Json.number (String.ofList (Decimal.ofInt n).toList), rest) = _
    rw [String.ofList_toList]
    rfl
  all_goals
    next heq => exact absurd (List.cons.inj heq).1 (hne _ (by decide) rfl)

/-- The printed form is read as the value, whatever follows, with a bound that its length allows. -/
def ReadsBack (v : Json) : Prop :=
  ∀ depth fuel rest, 2 * (renderAt depth v).length ≤ fuel → Delimits rest →
    value? fuel ((renderAt depth v).toList ++ rest) = some (v, rest)

theorem delimits_lineBreak (depth : Nat) (rest : List Char) :
    Delimits ((lineBreak depth).toList ++ rest) := by
  rw [lineBreak, String.toList_ofList]
  exact delimits_cons (.inr rfl) _

theorem skip_lineBreak (depth : Nat) (rest : List Char) :
    skip ((lineBreak depth).toList ++ rest) = skip rest :=
  skip_append (fun _ hc => isSpace_of_mem_lineBreak hc) rest

section

variable (depth closing : Nat) (rest : List Char)

/-- The items of an array are read one by one up to the bracket on its own line. -/
theorem items?_renderItems {vs : List Json} (hvs : ∀ w ∈ vs, ReadsBack w) {v : Json}
    (hv : ReadsBack v) (done : List Json) (fuel : Nat)
    (hfuel : 2 * ((renderAt depth v).length + (renderItems depth vs).length) < fuel) :
    items? fuel done ((renderAt depth v).toList ++ ((renderItems depth vs).toList ++
      ((lineBreak closing).toList ++ ']' :: rest))) =
        some (.array (done.reverse ++ v :: vs), rest) := by
  -- the item in front is announced already, the induction is on those behind it
  induction vs generalizing v done fuel with
  | nil =>
    obtain ⟨fuel, rfl⟩ := Nat.exists_eq_succ_of_ne_zero (Nat.ne_zero_of_lt hfuel)
    have hread := hv depth fuel _ (by omega) (delimits_lineBreak closing (']' :: rest))
    have hend : skip (']' :: rest) = ']' :: rest := skip_cons rfl rest
    simp only [renderItems, String.toList_empty, List.nil_append, items?, hread, skip_lineBreak,
      hend, List.reverse_cons]
  | cons w ws ih =>
    obtain ⟨fuel, rfl⟩ := Nat.exists_eq_succ_of_ne_zero (Nat.ne_zero_of_lt hfuel)
    obtain ⟨hw, hws⟩ := List.forall_mem_cons.mp hvs
    have hcomma : ",".length = 1 := rfl
    simp only [renderItems, String.length_append, hcomma] at hfuel
    have hread := fun cs => hv depth fuel (',' :: cs) (by omega) (delimits_cons (.inl rfl) cs)
    have hmore : ∀ cs, skip (',' :: cs) = ',' :: cs := skip_cons rfl
    have hnext := ih hws hw (v :: done) fuel (by omega)
    rw [List.reverse_cons, List.append_assoc, List.singleton_append] at hnext
    have htext : (renderItems depth (w :: ws)).toList = ',' :: ((lineBreak depth).toList ++
        ((renderAt depth w).toList ++ (renderItems depth ws).toList)) := by
      simp [renderItems, String.toList_append]
    rw [htext, items?]
    simp only [List.cons_append, List.append_assoc, hread, hmore]
    rw [items?_append fun _ hc => isSpace_of_mem_lineBreak hc]
    exact hnext

theorem toList_renderMember (depth : Nat) (key : String) (v : Json) (rest : List Char) :
    (renderMember depth (some key, v)).toList ++ rest = '"' :: (key.toList.flatMap escaped ++
      '"' :: ':' :: ' ' :: ((renderAt depth v).toList ++ rest)) := by
  rw [← toList_quoted]
  simp [renderMember, String.toList_append]

/-- What is made of the text behind a member: a comma announces one more, a brace is the end. -/
def behindMember? (fuel : Nat) (done : List (Option String × Json)) (rest : List Char) :
    Option (Json × List Char) :=
  match skip rest with
  | ',' :: cs => memberList? fuel done cs
  | '}' :: cs => some (.object done.reverse, cs)
  | _ => none

theorem memberList?_renderMember {key : String} {v : Json} (hv : ReadsBack v)
    (done : List (Option String × Json)) {fuel : Nat}
    (hfuel : 2 * (renderMember depth (some key, v)).length ≤ fuel) {rest : List Char}
    (hrest : Delimits rest) :
    memberList? (fuel + 1) done ((renderMember depth (some key, v)).toList ++ rest) =
      behindMember? fuel ((some key, v) :: done) rest := by
  have hspace : ∀ c ∈ [' '], isSpace c = true := List.forall_mem_singleton.mpr rfl
  have hquote (cs : List Char) : skip ('"' :: cs) = '"' :: cs := skip_cons rfl cs
  have hcolon (cs : List Char) : skip (':' :: cs) = ':' :: cs := skip_cons rfl cs
  have hlength : (renderAt depth v).length ≤ (renderMember depth (some key, v)).length := by
    simp only [renderMember, String.length_append]
    omega
  have hread : value? fuel (' ' :: ((renderAt depth v).toList ++ rest)) = some (v, rest) :=
    (value?_append hspace fuel _).trans (hv depth fuel rest (by omega) hrest)
  rw [toList_renderMember, memberList?]
  simp only [hquote, string?_quoted, hcolon, hread]
  rfl

theorem memberList?_renderMembers {ms : List (Option String × Json)}
    (hms : ∀ m ∈ ms, m.1.isSome ∧ ReadsBack m.2) (key : String) {v : Json} (hv : ReadsBack v)
    (done : List (Option String × Json)) (fuel : Nat)
    (hfuel : 2 * ((renderMember depth (some key, v)).length + (renderMembers depth ms).length) <
      fuel) :
    memberList? fuel done ((renderMember depth (some key, v)).toList ++
      ((renderMembers depth ms).toList ++ ((lineBreak closing).toList ++ '}' :: rest))) =
        some (.object (done.reverse ++ (some key, v) :: ms), rest) := by
  induction ms generalizing key v done fuel with
  | nil =>
    obtain ⟨fuel, rfl⟩ := Nat.exists_eq_succ_of_ne_zero (Nat.ne_zero_of_lt hfuel)
    have hend : skip ('}' :: rest) = '}' :: rest := skip_cons rfl rest
    have hrest := delimits_lineBreak closing ('}' :: rest)
    rw [renderMembers, String.toList_empty, List.nil_append,
      memberList?_renderMember depth hv done (by omega) hrest, behindMember?, skip_lineBreak, hend,
      ← List.reverse_cons]
    rfl
  | cons m ms ih =>
    obtain ⟨fuel, rfl⟩ := Nat.exists_eq_succ_of_ne_zero (Nat.ne_zero_of_lt hfuel)
    obtain ⟨key?, v'⟩ := m
    obtain ⟨key', rfl⟩ : ∃ key', key? = some key' :=
      Option.isSome_iff_exists.mp (hms _ List.mem_cons_self).1
    obtain ⟨⟨-, (hv' : ReadsBack v')⟩, hms⟩ := List.forall_mem_cons.mp hms
    have hcomma : ",".length = 1 := rfl
    simp only [renderMembers, String.length_append, hcomma] at hfuel
    have hmore (cs : List Char) : skip (',' :: cs) = ',' :: cs := skip_cons rfl cs
    have hnext := ih hms key' hv' ((some key, v) :: done) fuel (by omega)
    rw [List.reverse_cons, List.append_assoc, List.singleton_append] at hnext
    have htext : (renderMembers depth ((some key', v') :: ms)).toList =
        ',' :: ((lineBreak depth).toList ++
          ((renderMember depth (some key', v')).toList ++ (renderMembers depth ms).toList)) := by
      simp [renderMembers, String.toList_append]
    rw [htext, List.cons_append, List.append_assoc, List.append_assoc,
      memberList?_renderMember depth hv done (by omega) (delimits_cons (.inl rfl) _),
      behindMember?, hmore]
    show memberList? _ _ _ = _
    rw [memberList?_append fun _ hc => isSpace_of_mem_lineBreak hc]
    exact hnext

end

/-- The value can be printed without loss: its numbers are whole and all its texts are texts. -/
inductive Exact : Json → Prop
  | null : Exact .null
  | bool (b : Bool) : Exact (.bool b)
  | number (n : Int) : Exact (.ofInt n)
  | string (s : String) : Exact (.string s)
  | array {items : List Json} (h : ∀ v ∈ items, Exact v) : Exact (.array items)
  | object {members : List (Option String × Json)} (hkeys : ∀ m ∈ members, m.1.isSome)
    (h : ∀ m ∈ members, Exact m.2) : Exact (.object members)

/-- No value begins with the bracket that ends an array. -/
theorem value?_of_bracket {fuel : Nat} {cs rest : List Char} (h : skip cs = ']' :: rest) :
    value? fuel cs = none := by
  cases fuel with
  | zero => rfl
  | succ fuel =>
    rw [value?, h]
    rfl

theorem ReadsBack.array {items : List Json} (h : ∀ v ∈ items, ReadsBack v) :
    ReadsBack (.array items) := by
  intro depth fuel rest hfuel _
  have hopen (cs : List Char) : skip ('[' :: cs) = '[' :: cs := skip_cons rfl cs
  cases items with
  | nil =>
    have hlength : "[]".length = 2 := rfl
    rw [renderAt, hlength] at hfuel
    obtain ⟨fuel, rfl⟩ := Nat.exists_eq_succ_of_ne_zero (n := fuel) (by omega)
    have htext : (renderAt depth (.array [])).toList ++ rest = '[' :: ']' :: rest := by
      simp [renderAt]
    have hclose : skip (']' :: rest) = ']' :: rest := skip_cons rfl rest
    rw [htext, value?]
    simp only [hopen, hclose]
  | cons v vs =>
    obtain ⟨hv, hvs⟩ := List.forall_mem_cons.mp h
    have hbracket : "[".length = 1 ∧ "]".length = 1 := ⟨rfl, rfl⟩
    simp only [renderAt, String.length_append, hbracket] at hfuel
    obtain ⟨fuel, rfl⟩ := Nat.exists_eq_succ_of_ne_zero (n := fuel) (by omega)
    have hread := items?_renderItems (depth + 1) depth rest hvs hv [] fuel (by omega)
    generalize hcs : (renderAt (depth + 1) v).toList ++ ((renderItems (depth + 1) vs).toList ++
      ((lineBreak depth).toList ++ ']' :: rest)) = cs at hread
    have htext : (renderAt depth (.array (v :: vs))).toList ++ rest =
        '[' :: ((lineBreak (depth + 1)).toList ++ cs) := by
      rw [← hcs]
      simp [renderAt, String.toList_append]
    rw [htext, value?]
    simp only [hopen, skip_lineBreak]
    split
    case h_1 heq =>
      -- otherwise the first item could not have been read
      obtain ⟨fuel, rfl⟩ := Nat.exists_eq_succ_of_ne_zero (n := fuel) (by omega)
      rw [items?, value?_of_bracket heq] at hread
      cases hread
    case h_2 => rw [items?_skip, hread]; rfl

theorem ReadsBack.object {members : List (Option String × Json)}
    (hkeys : ∀ m ∈ members, m.1.isSome) (h : ∀ m ∈ members, ReadsBack m.2) :
    ReadsBack (.object members) := by
  intro depth fuel rest hfuel _
  have hopen (cs : List Char) : skip ('{' :: cs) = '{' :: cs := skip_cons rfl cs
  cases members with
  | nil =>
    have hlength : "\x7b\x7d".length = 2 := rfl
    rw [renderAt, hlength] at hfuel
    obtain ⟨fuel, rfl⟩ := Nat.exists_eq_succ_of_ne_zero (n := fuel) (by omega)
    have htext : (renderAt depth (.object [])).toList ++ rest = '{' :: '}' :: rest := by
      simp [renderAt]
    have hclose : skip ('}' :: rest) = '}' :: rest := skip_cons rfl rest
    rw [htext, value?]
    simp only [hopen, hclose]
  | cons m ms =>
    obtain ⟨key?, v⟩ := m
    obtain ⟨key, rfl⟩ : ∃ key, key? = some key :=
      Option.isSome_iff_exists.mp (hkeys _ List.mem_cons_self)
    obtain ⟨-, hkeys⟩ := List.forall_mem_cons.mp hkeys
    obtain ⟨(hv : ReadsBack v), hms⟩ := List.forall_mem_cons.mp h
    have hbrace : "\x7b".length = 1 ∧ "\x7d".length = 1 := ⟨rfl, rfl⟩
    simp only [renderAt, String.length_append, hbrace] at hfuel
    obtain ⟨fuel, rfl⟩ := Nat.exists_eq_succ_of_ne_zero (n := fuel) (by omega)
    have hread := memberList?_renderMembers (depth + 1) depth rest
      (fun m hm => ⟨hkeys m hm, hms m hm⟩) key hv [] fuel (by omega)
    have htext : (renderAt depth (.object ((some key, v) :: ms))).toList ++ rest =
        '{' :: ((lineBreak (depth + 1)).toList ++
          ((renderMember (depth + 1) (some key, v)).toList ++
            ((renderMembers (depth + 1) ms).toList ++
              ((lineBreak depth).toList ++ '}' :: rest)))) := by
      simp [renderAt, String.toList_append]
    have hquote (cs : List Char) : skip ('"' :: cs) = '"' :: cs := skip_cons rfl cs
    rw [toList_renderMember] at hread htext
    rw [htext, value?]
    simp only [hopen, skip_lineBreak, hquote]
    exact hread

theorem readsBack_of_step {v : Json} (hpos : ∀ depth, 0 < (renderAt depth v).length)
    (h : ∀ depth fuel rest, Delimits rest →
      value? (fuel + 1) ((renderAt depth v).toList ++ rest) = some (v, rest)) : ReadsBack v := by
  intro depth fuel rest hfuel hrest
  have hlength := hpos depth
  obtain ⟨fuel, rfl⟩ := Nat.exists_eq_succ_of_ne_zero (n := fuel) (by omega)
  exact h depth fuel rest hrest

theorem ReadsBack.null : ReadsBack .null := by
  refine readsBack_of_step (fun _ => by rw [renderAt]; decide) fun depth fuel rest _ => ?_
  have htext : (renderAt depth .null).toList ++ rest = 'n' :: 'u' :: 'l' :: 'l' :: rest := by
    simp [renderAt]
  rw [htext, value?, skip_cons rfl]
  rfl

theorem ReadsBack.bool (b : Bool) : ReadsBack (.bool b) := by
  cases b with
  | false =>
    refine readsBack_of_step (fun _ => by rw [renderAt]; decide) fun depth fuel rest _ => ?_
    have htext : (renderAt depth (.bool false)).toList ++ rest =
        'f' :: 'a' :: 'l' :: 's' :: 'e' :: rest := by simp [renderAt]
    rw [htext, value?, skip_cons rfl]
    rfl
  | true =>
    refine readsBack_of_step (fun _ => by rw [renderAt]; decide) fun depth fuel rest _ => ?_
    have htext : (renderAt depth (.bool true)).toList ++ rest =
        't' :: 'r' :: 'u' :: 'e' :: rest := by simp [renderAt]
    rw [htext, value?, skip_cons rfl]
    rfl

theorem ReadsBack.string (s : String) : ReadsBack (.string s) := by
  refine readsBack_of_step (fun _ => ?_) fun depth fuel rest _ => ?_
  · rw [renderAt, quoted, String.length_ofList, List.cons_append, List.length_cons]
    exact Nat.succ_pos _
  · have hquote (cs : List Char) : skip ('"' :: cs) = '"' :: cs := skip_cons rfl cs
    rw [renderAt, toList_quoted, value?]
    simp only [hquote, string?_quoted]
    rfl

theorem ReadsBack.number (n : Int) : ReadsBack (.ofInt n) := by
  refine readsBack_of_step (fun _ => ?_) fun depth fuel rest hrest => value?_number hrest n fuel
  rw [ofInt, renderAt, ← String.length_toList]
  rcases Int.lt_or_le n 0 with hneg | hpos
  · rw [Decimal.toList_ofInt_of_neg hneg]
    exact Nat.succ_pos _
  · rw [Decimal.toList_ofInt_of_nonneg hpos]
    exact Nat.length_toDigits_pos

theorem Exact.readsBack {v : Json} (h : Exact v) : ReadsBack v := by
  induction h with
  | null => exact .null
  | bool b => exact .bool b
  | string s => exact .string s
  | number n => exact .number n
  | array _ ih => exact .array ih
  | object hkeys _ ih => exact .object hkeys ih

/-- The printed form of an exact value is read as that value, whatever blanks follow. -/
theorem ofText?_render {v : Json} (h : Exact v) (space : String)
    (hspace : ∀ c ∈ space.toList, isSpace c = true) : ofText? (v.render ++ space) = some v := by
  have hlength : 2 * (renderAt 0 v).length ≤ 2 * (v.render ++ space).toList.length + 2 := by
    rw [String.length_toList, String.length_append, render]
    omega
  have hread := h.readsBack 0 _ space.toList hlength (delimits_of_spaces hspace)
  rw [ofText?, ofChars?]
  rw [String.toList_append] at hread ⊢
  simp only [render] at hread ⊢
  rw [hread]
  simp only [skip_of_spaces hspace, List.isEmpty_nil, if_true]

end ChargingRegister.Json
