import ChargingRegister.Json.Basic

/-!
# Reading JSON

A reader takes a value off the front of the characters and returns what follows it. Blanks are
space, tab and the two line breaks; numbers and literals follow the grammar to the letter, and
nesting has no bound. `Json.ofText?` accepts one value with nothing but blanks around it.
-/
namespace ChargingRegister.Json

def isSpace (c : Char) : Bool :=
  c == ' ' || c == '\t' || c == '\n' || c == '\r'

def skip (cs : List Char) : List Char :=
  cs.dropWhile isSpace

def hexValue? (c : Char) : Option Nat :=
  if '0' ≤ c ∧ c ≤ '9' then some (c.toNat - 0x30)
  else if 'a' ≤ c ∧ c ≤ 'f' then some (c.toNat - 0x57)
  else if 'A' ≤ c ∧ c ≤ 'F' then some (c.toNat - 0x37)
  else none

def unit? (a b c d : Char) : Option Nat := do
  let a ← hexValue? a
  let b ← hexValue? b
  let c ← hexValue? c
  let d ← hexValue? d
  return ((a * 16 + b) * 16 + c) * 16 + d

def simpleEscape? : Char → Option Char
  | '"' => some '"'
  | '\\' => some '\\'
  | '/' => some '/'
  | 'b' => some '\x08'
  | 'f' => some '\x0c'
  | 'n' => some '\n'
  | 'r' => some '\r'
  | 't' => some '\t'
  | _ => none

/-- The second half of a surrogate pair at the front, and what follows it. -/
def secondHalf? : List Char → Option (Nat × List Char)
  | '\\' :: 'u' :: a :: b :: c :: d :: cs =>
    match unit? a b c d with
    | some n => if 0xDC00 ≤ n ∧ n < 0xE000 then some (n - 0xDC00, cs) else none
    | none => none
  | _ => none

/-- The character that an escape at the front denotes (`none` for half a pair), and what
follows it. The backslash has been taken. -/
def escape? : List Char → Option (Option Char × List Char)
  | 'u' :: a :: b :: c :: d :: cs =>
    match unit? a b c d with
    | none => none
    | some n =>
      if 0xD800 ≤ n ∧ n < 0xDC00 then
        match secondHalf? cs with
        | some (low, rest) => some (some (Char.ofNat (0x10000 + (n - 0xD800) * 0x400 + low)), rest)
        | none => some (none, cs)
      else if 0xDC00 ≤ n ∧ n < 0xE000 then some (none, cs)
      else some (some (Char.ofNat n), cs)
  | c :: cs => (simpleEscape? c).map fun e => (some e, cs)
  | [] => none

theorem secondHalf?_length {cs rest : List Char} {n : Nat} (h : secondHalf? cs = some (n, rest)) :
    rest.length < cs.length := by
  unfold secondHalf? at h
  split at h
  · split at h
    · split at h
      · simp only [Option.some.injEq, Prod.mk.injEq] at h
        simp [← h.2]
        omega
      · cases h
    · cases h
  · cases h

theorem escape?_length {cs rest : List Char} {e : Option Char} (h : escape? cs = some (e, rest)) :
    rest.length < cs.length := by
  unfold escape? at h
  split at h
  · split at h
    · cases h
    · split at h
      · split at h
        · next hs =>
          have := secondHalf?_length hs
          simp only [Option.some.injEq, Prod.mk.injEq] at h
          simp only [← h.2, List.length_cons]
          omega
        · simp only [Option.some.injEq, Prod.mk.injEq] at h
          simp only [← h.2, List.length_cons]
          omega
      · split at h <;>
        · simp only [Option.some.injEq, Prod.mk.injEq] at h
          simp only [← h.2, List.length_cons]
          omega
  · simp only [Option.map_eq_some_iff, Prod.mk.injEq] at h
    obtain ⟨_, _, _, h⟩ := h
    simp [← h]
  · cases h

/-- The rest of a string literal after its opening quote. `done` holds the characters read so
far, last first; `whole` tells that all escapes so far denoted characters. -/
def stringRest? (done : List Char) (whole : Bool) :
    List Char → Option (Option String × List Char)
  | [] => none
  | c :: cs =>
    if c = '"' then some (if whole then some (String.ofList done.reverse) else none, cs)
    else if c = '\\' then
      match h : escape? cs with
      | some (some e, rest) =>
        have := escape?_length h
        stringRest? (e :: done) whole rest
      | some (none, rest) =>
        have := escape?_length h
        stringRest? done false rest
      | none => none
    else if c.toNat < 0x20 then none
    else stringRest? (c :: done) whole cs
termination_by cs => cs.length

def string? (cs : List Char) : Option (Option String × List Char) :=
  stringRest? [] true cs

def digits? (cs : List Char) : Option (List Char × List Char) :=
  let ds := cs.takeWhile Decimal.isDigit
  if ds.isEmpty then none else some (ds, cs.drop ds.length)

def wholePart? (cs : List Char) : Option (List Char × List Char) :=
  match digits? cs with
  | some ('0' :: _ :: _, _) => none
  | r => r

def fractionPart? : List Char → Option (List Char × List Char)
  | '.' :: cs => (digits? cs).map fun r => ('.' :: r.1, r.2)
  | cs => some ([], cs)

def exponentSign : List Char → List Char × List Char
  | '+' :: cs => (['+'], cs)
  | '-' :: cs => (['-'], cs)
  | cs => ([], cs)

def exponentPart? : List Char → Option (List Char × List Char)
  | [] => some ([], [])
  | c :: cs =>
    if c = 'e' ∨ c = 'E' then
      let (sign, cs) := exponentSign cs
      (digits? cs).map fun r => (c :: sign ++ r.1, r.2)
    else some ([], c :: cs)

def magnitude? (cs : List Char) : Option (List Char × List Char) := do
  let (whole, cs) ← wholePart? cs
  let (fraction, cs) ← fractionPart? cs
  let (exponent, cs) ← exponentPart? cs
  return (whole ++ fraction ++ exponent, cs)

def number? : List Char → Option (List Char × List Char)
  | '-' :: cs => (magnitude? cs).map fun r => ('-' :: r.1, r.2)
  | cs => magnitude? cs

mutual

def value? : Nat → List Char → Option (Json × List Char)
  | 0, _ => none
  | fuel + 1, cs =>
    match skip cs with
    | 'n' :: 'u' :: 'l' :: 'l' :: rest => some (.null, rest)
    | 't' :: 'r' :: 'u' :: 'e' :: rest => some (.bool true, rest)
    | 'f' :: 'a' :: 'l' :: 's' :: 'e' :: rest => some (.bool false, rest)
    | '"' :: rest => (string? rest).map fun r => (r.1.elim .halfPair .string, r.2)
    | '[' :: rest =>
      match skip rest with
      | ']' :: rest => some (.array [], rest)
      | rest => items? fuel [] rest
    | '{' :: rest =>
      match skip rest with
      | '}' :: rest => some (.object [], rest)
      | rest => memberList? fuel [] rest
    | rest => (number? rest).map fun r => (.number (String.ofList r.1), r.2)

/-- The items of an array up to its end; `done` holds those read so far, last first. -/
def items? : Nat → List Json → List Char → Option (Json × List Char)
  | 0, _, _ => none
  | fuel + 1, done, cs =>
    match value? fuel cs with
    | none => none
    | some (v, cs) =>
      match skip cs with
      | ',' :: cs => items? fuel (v :: done) cs
      | ']' :: cs => some (.array (v :: done).reverse, cs)
      | _ => none

def memberList? : Nat → List (Option String × Json) → List Char → Option (Json × List Char)
  | 0, _, _ => none
  | fuel + 1, done, cs =>
    match skip cs with
    | '"' :: cs =>
      match string? cs with
      | none => none
      | some (key, cs) =>
        match skip cs with
        | ':' :: cs =>
          match value? fuel cs with
          | none => none
          | some (v, cs) =>
            match skip cs with
            | ',' :: cs => memberList? fuel ((key, v) :: done) cs
            | '}' :: cs => some (.object ((key, v) :: done).reverse, cs)
            | _ => none
        | _ => none
    | _ => none

end

/-- Every character pays for two readers, so the bound is never met. -/
def ofChars? (cs : List Char) : Option Json :=
  match value? (2 * cs.length + 2) cs with
  | some (v, rest) => if (skip rest).isEmpty then some v else none
  | none => none

def ofText? (text : String) : Option Json :=
  ofChars? text.toList

end ChargingRegister.Json
