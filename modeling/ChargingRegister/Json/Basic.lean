import ChargingRegister.Decimal

/-!
# JSON values, their printed form and their fields

Numbers keep their literal. A string literal may escape one half of a surrogate pair; it is well
formed and denotes no text. Printing indents by two blanks and writes the members of an object in
the order given. A field that a record leaves out counts as null, and one that stands twice makes
the record unreadable.
-/
namespace ChargingRegister

inductive Json where
  | null
  | bool (value : Bool)
  | number (literal : String)
  | string (text : String)
  /-- A string literal that denotes no text. -/
  | halfPair
  | array (items : List Json)
  /-- Members in the order written; a key that denotes no text is `none`. -/
  | object (members : List (Option String × Json))

namespace Json

def ofInt (n : Int) : Json :=
  .number (Decimal.ofInt n)

def ofOption : Option String → Json
  | some s => .string s
  | none => .null

def record (members : List (String × Json)) : Json :=
  .object (members.map fun m => (some m.1, m.2))

def hexDigit (n : Nat) : Char :=
  if n < 10 then Char.ofNat (0x30 + n) else Char.ofNat (0x57 + n)

/-- A character inside quotes: quote, backslash and the control characters are escaped. -/
def escaped (c : Char) : List Char :=
  match c with
  | '"' => ['\\', '"']
  | '\\' => ['\\', '\\']
  | '\n' => ['\\', 'n']
  | '\r' => ['\\', 'r']
  | '\t' => ['\\', 't']
  | '\x08' => ['\\', 'b']
  | '\x0c' => ['\\', 'f']
  | c =>
    if c.toNat < 0x20 then
      ['\\', 'u', '0', '0', hexDigit (c.toNat / 16), hexDigit (c.toNat % 16)]
    else [c]

def quoted (s : String) : String :=
  String.ofList ('"' :: s.toList.flatMap escaped ++ ['"'])

def lineBreak (depth : Nat) : String :=
  String.ofList ('\n' :: List.replicate (2 * depth) ' ')

mutual

/-- The printed form of a value whose first line already stands at the given depth. -/
def renderAt (depth : Nat) : Json → String
  | .null => "null"
  | .bool b => if b then "true" else "false"
  | .number literal => literal
  | .string s => quoted s
  | .halfPair => quoted ""
  | .array [] => "[]"
  | .array (v :: vs) =>
    "[" ++ lineBreak (depth + 1) ++ renderAt (depth + 1) v ++ renderItems (depth + 1) vs ++
      lineBreak depth ++ "]"
  | .object [] => "\x7b\x7d"
  | .object (m :: ms) =>
    "\x7b" ++ lineBreak (depth + 1) ++ renderMember (depth + 1) m ++
      renderMembers (depth + 1) ms ++ lineBreak depth ++ "\x7d"

def renderItems (depth : Nat) : List Json → String
  | [] => ""
  | v :: vs => "," ++ lineBreak depth ++ renderAt depth v ++ renderItems depth vs

def renderMember (depth : Nat) : Option String × Json → String
  | (key, v) => quoted (key.getD "") ++ ": " ++ renderAt depth v

def renderMembers (depth : Nat) : List (Option String × Json) → String
  | [] => ""
  | m :: ms => "," ++ lineBreak depth ++ renderMember depth m ++ renderMembers depth ms

end

def render (v : Json) : String :=
  renderAt 0 v

/-- A whole number within a signed word of 64 bits; minus zero is none. -/
def signedWord? : Json → Option Int
  | .number literal =>
    match literal.toList with
    | ['-', '0'] => none
    | cs => Decimal.signedWord? cs
  | _ => none

def text? : Json → Option String
  | .string s => some s
  | _ => none

def orNull {α : Type} (read : Json → Option α) : Json → Option (Option α)
  | .null => some none
  | v => (read v).map some

/-- The members of an object whose keys all denote texts. -/
def members? : Json → Option (List (Option String × Json))
  | .object members => if members.any (·.1.isNone) then none else some members
  | _ => none

/-- The value of a key that stands at most once. -/
def field? (key : String) (members : List (Option String × Json)) : Option Json :=
  match members.filter (·.1 == some key) with
  | [] => some .null
  | [m] => some m.2
  | _ => none

end Json

end ChargingRegister
