import ChargingRegister.Toml.Number

/-!
# Reading a configuration document

A document is a row of lines: empty, a comment, the header of a table or of one more table of an
array, or the assignment of a value to a key. Arrays run over several lines and may end in a
comma, inline tables stand on one line and may not.
-/
namespace ChargingRegister.Toml

/-- What follows a comment at the front: the line break that ends it, or nothing. A control
character ends it too, and no line break follows then. -/
def afterComment : List Char → List Char
  | '#' :: cs => cs.dropWhile isPrintable
  | cs => cs

theorem length_afterComment (cs : List Char) : (afterComment cs).length ≤ cs.length := by
  unfold afterComment
  split
  · exact Nat.le_trans (List.dropWhile_sublist _).length_le (Nat.le_succ _)
  · exact Nat.le_refl _

theorem lineBreak?_length {cs rest : List Char} (h : lineBreak? cs = some rest) :
    rest.length < cs.length := by
  unfold lineBreak? at h
  split at h <;> cases h <;> simp only [List.length_cons] <;> omega

theorem length_after_lineBreak? {cs rest : List Char}
    (h : lineBreak? (afterComment (skip cs)) = some rest) : rest.length < cs.length := by
  have h1 := lineBreak?_length h
  have h2 := length_afterComment (skip cs)
  have h3 : (skip cs).length ≤ cs.length := (List.dropWhile_sublist _).length_le
  omega

/-- Blanks, comments and line breaks inside an array are left out. -/
def skipLines (cs : List Char) : List Char :=
  match _h : lineBreak? (afterComment (skip cs)) with
  | some rest => skipLines rest
  | none => skip cs
termination_by cs.length
decreasing_by exact length_after_lineBreak? _h

mutual

/-- A value; `depth` counts the arrays and inline tables around it. -/
def value? : Nat → Nat → List Char → Option (Value × List Char)
  | 0, _, _ => none
  | fuel + 1, depth, cs =>
    match cs with
    | [] => none
    | c :: rest =>
      if c = '"' ∨ c = '\'' then (string? cs).map fun r => (.string r.1, r.2)
      else if c = '[' then
        if depth + 1 < depthLimit then items? fuel (depth + 1) [] rest else none
      else if c = '{' then
        if depth + 1 < depthLimit then
          match skip rest with
          | '}' :: rest => some (.table [], rest)
          | rest => members? fuel (depth + 1) [] rest
        else none
      else if c = 't' then
        match rest with
        | 'r' :: 'u' :: 'e' :: rest => some (.boolean true, rest)
        | _ => none
      else if c = 'f' then
        match rest with
        | 'a' :: 'l' :: 's' :: 'e' :: rest => some (.boolean false, rest)
        | _ => none
      else number? cs

/-- The items of an array up to its end; `done` holds those read so far, last first. -/
def items? : Nat → Nat → List Value → List Char → Option (Value × List Char)
  | 0, _, _, _ => none
  | fuel + 1, depth, done, cs =>
    match skipLines cs with
    | ']' :: rest => some (.array done.reverse, rest)
    | cs =>
      match value? fuel depth cs with
      | none => none
      | some (v, cs) =>
        match skipLines cs with
        | ',' :: rest => items? fuel depth (v :: done) rest
        | ']' :: rest => some (.array (v :: done).reverse, rest)
        | _ => none

def members? : Nat → Nat → Entries → List Char → Option (Value × List Char)
  | 0, _, _, _ => none
  | fuel + 1, depth, done, cs =>
    match key? cs with
    | some ((path, key), '=' :: cs) =>
      match value? fuel depth (skip cs) with
      | none => none
      | some (v, cs) =>
        match assign path key v .header done with
        | none => none
        | some done =>
          match skip cs with
          | ',' :: rest => members? fuel depth done rest
          | '}' :: rest => some (.table (toDocument done), rest)
          | _ => none
    | _ => none

end

/-- The document so far: its entries and the path of the table that is open. -/
structure Draft where
  root : Entries
  current : List String

def endOfLine? (cs : List Char) : Option (List Char) :=
  match afterComment (skip cs) with
  | [] => some []
  | cs => lineBreak? cs

def headerKey? (cs : List Char) : Option ((List String × String) × List Char) :=
  match key? cs with
  | some (key, ']' :: rest) => some (key, rest)
  | _ => none

/-- Reads a header whose first bracket has been taken. -/
def header? (d : Draft) : List Char → Option (Draft × List Char)
  | '[' :: cs =>
    match headerKey? cs with
    | some ((path, key), ']' :: rest) =>
      (openElement path key d.root).map fun root => (⟨root, path ++ [key]⟩, rest)
    | _ => none
  | cs =>
    match headerKey? cs with
    | some ((path, key), rest) =>
      (openTable path key d.root).map fun root => (⟨root, path ++ [key]⟩, rest)
    | none => none

def assignment? (d : Draft) (fuel : Nat) (cs : List Char) : Option (Draft × List Char) :=
  match key? cs with
  | some ((path, key), '=' :: cs) =>
    match value? fuel 0 (skip cs) with
    | some (v, rest) =>
      (assignIn d.current path key v d.root).map fun root => ({ d with root }, rest)
    | none => none
  | _ => none

def lines? : Nat → Draft → List Char → Option Draft
  | 0, _, _ => none
  | fuel + 1, d, cs =>
    match skip cs with
    | [] => some d
    | '[' :: cs =>
      match header? d cs with
      | some (d, rest) =>
        match endOfLine? rest with
        | some rest => lines? fuel d rest
        | none => none
      | none => none
    | c :: cs =>
      if c = '#' ∨ c = '\n' ∨ c = '\r' then
        match endOfLine? (c :: cs) with
        | some rest => lines? fuel d rest
        | none => none
      else
        match assignment? d (2 * cs.length + 4) (c :: cs) with
        | some (d, rest) =>
          match endOfLine? rest with
          | some rest => lines? fuel d rest
          | none => none
        | none => none

def withoutMark : List Char → List Char
  | '\uFEFF' :: cs => cs
  | cs => cs

def Document.ofText? (text : String) : Option Document :=
  let cs := withoutMark text.toList
  (lines? (cs.length + 1) ⟨[], []⟩ cs).map fun d => toDocument d.root

end ChargingRegister.Toml
