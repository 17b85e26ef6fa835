import ChargingRegister.Json.Reader

/-!
# Strings and keys of a configuration document

Basic strings know escapes, literal strings do not; each has a form over several lines, whose
first line break does not count. A line break is a line feed, with or without a carriage return
before it, and reads as a line feed.
-/
namespace ChargingRegister.Toml

def isSpace (c : Char) : Bool :=
  c == ' ' || c == '\t'

def skip (cs : List Char) : List Char :=
  cs.dropWhile isSpace

/-- Tab and every character that is not a control character of ASCII. -/
def isPrintable (c : Char) : Bool :=
  c == '\t' || (0x20 ≤ c.toNat && c.toNat != 0x7F)

def isBareKeyChar (c : Char) : Bool :=
  c.isAlphanum || c == '_' || c == '-'

def lineBreak? : List Char → Option (List Char)
  | '\n' :: cs => some cs
  | '\r' :: '\n' :: cs => some cs
  | _ => none

def scalar? (n : Nat) : Option Char :=
  if n.isValidChar then some (Char.ofNat n) else none

def hexNumber? (cs : List Char) : Option Nat :=
  cs.foldl (fun acc c => match acc, Json.hexValue? c with
    | some n, some d => some (n * 16 + d)
    | _, _ => none) (some 0)

def escape? : List Char → Option (Char × List Char)
  | 'b' :: cs => some ('\x08', cs)
  | 't' :: cs => some ('\t', cs)
  | 'n' :: cs => some ('\n', cs)
  | 'f' :: cs => some ('\x0c', cs)
  | 'r' :: cs => some ('\r', cs)
  | '"' :: cs => some ('"', cs)
  | '\\' :: cs => some ('\\', cs)
  | 'u' :: a :: b :: c :: d :: cs =>
    ((hexNumber? [a, b, c, d]).bind scalar?).map fun e => (e, cs)
  | 'U' :: a :: b :: c :: d :: e :: f :: g :: h :: cs =>
    ((hexNumber? [a, b, c, d, e, f, g, h]).bind scalar?).map fun e => (e, cs)
  | _ => none

theorem escape?_length {cs rest : List Char} {c : Char} (h : escape? cs = some (c, rest)) :
    rest.length < cs.length := by
  unfold escape? at h
  split at h <;>
    simp only [Option.map_eq_some_iff, Option.some.injEq, Prod.mk.injEq, reduceCtorEq] at h
  all_goals first
    | (obtain ⟨_, rfl⟩ := h; simp)
    | (obtain ⟨_, _, _, rfl⟩ := h; simp only [List.length_cons]; omega)

def dropBlankLines : List Char → List Char
  | ' ' :: cs => dropBlankLines cs
  | '\t' :: cs => dropBlankLines cs
  | '\n' :: cs => dropBlankLines cs
  | '\r' :: '\n' :: cs => dropBlankLines cs
  | cs => cs

theorem length_dropBlankLines (cs : List Char) : (dropBlankLines cs).length ≤ cs.length := by
  fun_induction dropBlankLines cs <;> simp_all <;> omega

/-- After a backslash that ends its line: what follows all blanks and line breaks. -/
def continuation? (cs : List Char) : Option (List Char) :=
  (lineBreak? (skip cs)).map dropBlankLines

theorem continuation?_length {cs rest : List Char} (h : continuation? cs = some rest) :
    rest.length < cs.length := by
  simp only [continuation?, Option.map_eq_some_iff] at h
  obtain ⟨after, h, rfl⟩ := h
  have h1 : (skip cs).length ≤ cs.length := (List.dropWhile_sublist _).length_le
  have h2 := length_dropBlankLines after
  unfold lineBreak? at h
  split at h
  · next heq => cases h; simp only [heq, List.length_cons] at h1; omega
  · next heq => cases h; simp only [heq, List.length_cons] at h1; omega
  · cases h

def basicRest? (done : List Char) : List Char → Option (String × List Char)
  | [] => none
  | c :: cs =>
    if c = '"' then some (String.ofList done.reverse, cs)
    else if c = '\\' then
      match h : escape? cs with
      | some (e, rest) =>
        have := escape?_length h
        basicRest? (e :: done) rest
      | none => none
    else if isPrintable c then basicRest? (c :: done) cs
    else none
termination_by cs => cs.length

/-- Quotes right after the three that close a string belong to it, two at most. -/
def closing (quote : Char) (done cs : List Char) : String × List Char :=
  match cs with
  | a :: b :: rest =>
    if a = quote then
      if b = quote then (String.ofList (quote :: quote :: done).reverse, rest)
      else (String.ofList (quote :: done).reverse, b :: rest)
    else (String.ofList done.reverse, cs)
  | [a] =>
    if a = quote then (String.ofList (quote :: done).reverse, [])
    else (String.ofList done.reverse, cs)
  | [] => (String.ofList done.reverse, [])

def longBasicRest? (done : List Char) : List Char → Option (String × List Char)
  | [] => none
  | '"' :: '"' :: '"' :: cs => some (closing '"' done cs)
  | '\r' :: '\n' :: cs => longBasicRest? ('\n' :: done) cs
  | c :: cs =>
    if c = '\\' then
      match h : continuation? cs with
      | some rest =>
        have := continuation?_length h
        longBasicRest? done rest
      | none =>
        match h : escape? cs with
        | some (e, rest) =>
          have := escape?_length h
          longBasicRest? (e :: done) rest
        | none => none
    else if isPrintable c || c == '\n' then longBasicRest? (c :: done) cs
    else none
termination_by cs => cs.length

def literalRest? (done : List Char) : List Char → Option (String × List Char)
  | [] => none
  | c :: cs =>
    if c = '\'' then some (String.ofList done.reverse, cs)
    else if isPrintable c then literalRest? (c :: done) cs
    else none

def longLiteralRest? (done : List Char) : List Char → Option (String × List Char)
  | [] => none
  | '\'' :: '\'' :: '\'' :: cs => some (closing '\'' done cs)
  | '\r' :: '\n' :: cs => longLiteralRest? ('\n' :: done) cs
  | c :: cs =>
    if isPrintable c || c == '\n' then longLiteralRest? (c :: done) cs
    else none

/-- The text after an opening mark, without a line break that follows the mark. -/
def afterMark (cs : List Char) : List Char :=
  (lineBreak? cs).getD cs

def string? : List Char → Option (String × List Char)
  | '"' :: '"' :: '"' :: cs => longBasicRest? [] (afterMark cs)
  | '"' :: cs => basicRest? [] cs
  | '\'' :: '\'' :: '\'' :: cs => longLiteralRest? [] (afterMark cs)
  | '\'' :: cs => literalRest? [] cs
  | _ => none

/-- One part of a key: bare, or a string on one line. -/
def keyPart? : List Char → Option (String × List Char)
  | '"' :: cs => basicRest? [] cs
  | '\'' :: cs => literalRest? [] cs
  | cs =>
    let part := cs.takeWhile isBareKeyChar
    if part.isEmpty then none else some (String.ofList part, cs.drop part.length)

/-- Keys and values nest less deep than this. -/
def depthLimit : Nat := 80

def keyParts? : Nat → List Char → Option (List String × List Char)
  | 0, _ => none
  | n + 1, cs =>
    match keyPart? (skip cs) with
    | none => none
    | some (part, cs) =>
      match skip cs with
      | '.' :: cs => (keyParts? n cs).map fun r => (part :: r.1, r.2)
      | cs => some ([part], cs)

/-- A dotted key as the path to its table and its last part. -/
def key? (cs : List Char) : Option ((List String × String) × List Char) :=
  match keyParts? (depthLimit - 1) cs with
  | some (parts, rest) => parts.getLast?.map fun key => ((parts.dropLast, key), rest)
  | none => none

end ChargingRegister.Toml
