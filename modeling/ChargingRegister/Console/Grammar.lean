import ChargingRegister.Decimal
import ChargingRegister.Status

/-!
# Argument lines

A line is read argument by argument. Options are recognised by a name behind two dashes or by a
letter behind one, everything else fills the open places in order, and two dashes alone end the
options. Values are collected first and checked when the next argument shows that no more of them
follow.
-/
namespace ChargingRegister.Console

/-- Why a line cannot be carried out. Asking for help or for the version ends it as well. -/
inductive UsageError where
  | missingArgument
  | unknownArgument (text : String)
  | unknownCommand (text : String)
  /-- An option without its value. -/
  | missingValue (name : String)
  | badValue (name text : String)
  /-- An argument given twice, or beside another that excludes it. -/
  | conflict (name : String)
  /-- A value for an option that takes none. -/
  | surplusValue (name : String)
  | helpRequest
  | versionRequest
  deriving DecidableEq, Repr

/-- What a value must be. -/
inductive ValueKind where
  | text
  /-- Any text but the empty one. -/
  | path
  | number
  | status
  deriving DecidableEq, Repr

inductive Value where
  | text (text : String)
  | number (number : Int)
  | status (status : Status)
  deriving DecidableEq, Repr

def ValueKind.read (kind : ValueKind) (name text : String) : Except UsageError Value :=
  match kind with
  | .text => .ok (.text text)
  | .path => if text.isEmpty then .error (.missingValue name) else .ok (.text text)
  | .number =>
    match Decimal.signedWord? text.toList with
    | some n => .ok (.number n)
    | none => .error (.badValue name text)
  | .status =>
    match Status.ofArgument? text with
    | some s => .ok (.status s)
    | none => .error (.badValue name text)

structure Slot where
  name : String
  kind : ValueKind
  /-- It takes all further values, negative numbers among them. -/
  many : Bool
  deriving DecidableEq

inductive Effect where
  | raise
  | take (kind : ValueKind)
  | help
  | version
  deriving DecidableEq

structure Switch where
  name : String
  letter : Option Char
  /-- The variable that holds the value of an option that is not given. -/
  fromVariable : Option String
  effect : Effect
  deriving DecidableEq

structure Grammar where
  switches : List Switch
  places : List Slot
  /-- Names that begin a line of their own. -/
  commands : List String
  /-- Names that exclude each other. -/
  exclusive : List (String × String)

/-- The values of everything given so far; an option without a value has an empty list. -/
abbrev Bindings := List (String × List Value)

namespace Bindings

def has (b : Bindings) (name : String) : Bool :=
  (b.lookup name).isSome

def values (b : Bindings) (name : String) : List Value :=
  (b.lookup name).getD []

def text? (b : Bindings) (name : String) : Option String :=
  match b.values name with
  | [.text s] => some s
  | _ => none

def number? (b : Bindings) (name : String) : Option Int :=
  match b.values name with
  | [.number n] => some n
  | _ => none

def status? (b : Bindings) (name : String) : Option Status :=
  match b.values name with
  | [.status s] => some s
  | _ => none

def numbers (b : Bindings) (name : String) : List Int :=
  (b.values name).filterMap fun
    | .number n => some n
    | _ => none

def add (b : Bindings) (slot : Slot) (texts : List String) : Except UsageError Bindings :=
  if texts.isEmpty then .error (.missingValue slot.name)
  else if b.has slot.name && !slot.many then .error (.conflict slot.name)
  else do
    let values ← texts.mapM (slot.kind.read slot.name)
    .ok ((slot.name, b.values slot.name ++ values) :: b)

end Bindings

structure Reading where
  bound : Bindings
  /-- A slot that may take more values, and those it has. -/
  pending : Option (Slot × List String)
  /-- How many places are filled. -/
  filled : Nat
  /-- Two dashes have ended the options. -/
  trailing : Bool

namespace Reading

def start : Reading :=
  ⟨[], none, 0, false⟩

def awaitsValue (r : Reading) : Bool :=
  r.pending.any (·.2.isEmpty)

def settle (r : Reading) : Except UsageError Reading :=
  match r.pending with
  | none => .ok r
  | some (slot, texts) => do
    let bound ← r.bound.add slot texts
    .ok { r with bound, pending := none }

def raise (r : Reading) (name : String) : Except UsageError Reading := do
  let r ← r.settle
  if r.bound.has name then .error (.conflict name)
  else .ok { r with bound := (name, []) :: r.bound }

/-- An option with a value: the one attached to it, or the next argument. -/
def take (r : Reading) (slot : Slot) (attached : Option String) : Except UsageError Reading := do
  let r ← r.settle
  match attached with
  | some text =>
    let bound ← r.bound.add slot [text]
    .ok { r with bound }
  | none => .ok { r with pending := some (slot, []) }

/-- Follows an option to which no value is attached, or one that may take it. -/
def follow (r : Reading) (s : Switch) (attached : Option String) : Except UsageError Reading :=
  match s.effect with
  | .raise => r.raise s.name
  | .take kind => r.take ⟨s.name, kind, false⟩ attached
  | .help => do
    let _ ← r.settle
    .error .helpRequest
  | .version => do
    let _ ← r.settle
    .error .versionRequest

end Reading

/-- The shapes of an argument while options may follow. -/
inductive Shape where
  | ending
  | long (name : String) (attached : Option String)
  | letters (letters : List Char)
  | plain
  deriving DecidableEq, Repr

def Shape.ofText (text : String) : Shape :=
  match text.toList with
  | ['-', '-'] => .ending
  | '-' :: '-' :: cs =>
    let name := String.ofList (cs.takeWhile (· != '='))
    match cs.dropWhile (· != '=') with
    | [] => .long name none
    | _ :: value => .long name (some (String.ofList value))
  | '-' :: c :: cs => .letters (c :: cs)
  | _ => .plain

/-- Digits, with at most one point and one exponent mark, neither in front, the mark not at the
end and the point not behind it. -/
def looksNumeric (cs : List Char) : Bool :=
  let isMark (c : Char) : Bool := c == 'e' || c == 'E'
  let mantissa := cs.takeWhile (!isMark ·)
  let exponent := (cs.dropWhile (!isMark ·)).drop 1
  let whole := mantissa.takeWhile (· != '.')
  let fraction := (mantissa.dropWhile (· != '.')).drop 1
  !whole.isEmpty && whole.all Decimal.isDigit && fraction.all Decimal.isDigit &&
    exponent.all Decimal.isDigit && (mantissa.length == cs.length || !exponent.isEmpty)

/-- The value behind a letter, with or without an equals sign between them. -/
def attachedTo (rest : List Char) : Option String :=
  match rest with
  | [] => none
  | '=' :: cs => some (String.ofList cs)
  | cs => some (String.ofList cs)

namespace Grammar

def named? (g : Grammar) (name : String) : Option Switch :=
  g.switches.find? (·.name == name)

def lettered? (g : Grammar) (letter : Char) : Option Switch :=
  g.switches.find? (·.letter == some letter)

def openPlace? (g : Grammar) (r : Reading) : Option Slot :=
  g.places[r.filled]?

/-- The complaint about a value for which there is no place. -/
def surplus (g : Grammar) (r : Reading) (text : String) : UsageError :=
  if g.commands.isEmpty || (r.trailing && g.commands.contains text) then .unknownArgument text
  else .unknownCommand text

def fillPlace (g : Grammar) (r : Reading) (text : String) : Except UsageError Reading :=
  match g.openPlace? r with
  | none => .error (g.surplus r text)
  | some slot =>
    match r.pending.filter fun p => slot.many && p.1.name == slot.name with
    | some p => .ok { r with pending := some (slot, p.2 ++ [text]) }
    | none => do
      let r ← r.settle
      .ok { r with
        pending := some (slot, [text])
        filled := if slot.many then r.filled else r.filled + 1 }

/-- A value goes to the option that waits for it, or else to the open place. -/
def takeValue (g : Grammar) (r : Reading) (text : String) : Except UsageError Reading :=
  match r.pending with
  | some (slot, []) => .ok { r with pending := some (slot, [text]) }
  | _ => g.fillPlace r text

def takeNamed (g : Grammar) (r : Reading) (name : String) (attached : Option String) :
    Except UsageError Reading :=
  match g.named? name with
  | none => .error (.unknownArgument ("--" ++ name))
  | some s =>
    match s.effect, attached with
    | .take _, _ => r.follow s attached
    | _, some _ => .error (.surplusValue name)
    | _, none => r.follow s none

/-- Letters without values may stand together; behind one with a value all is that value. -/
def takeLetters (g : Grammar) (r : Reading) : List Char → Except UsageError Reading
  | [] => .ok r
  | c :: cs =>
    match g.lettered? c with
    | none => .error (.unknownArgument ("-" ++ String.singleton c))
    | some s =>
      match s.effect with
      | .take _ => r.follow s (attachedTo cs)
      | _ => do
        let r ← r.follow s none
        g.takeLetters r cs

def step (g : Grammar) (r : Reading) (text : String) : Except UsageError Reading :=
  if r.trailing then g.fillPlace r text
  else match Shape.ofText text with
    | .ending => .ok { r with trailing := true }
    | .long name attached => g.takeNamed r name attached
    | .letters cs =>
      if (g.openPlace? r).any (·.many) && looksNumeric cs then g.takeValue r text
      else g.takeLetters r cs
    | .plain => g.takeValue r text

/-- The value of a variable stands in for an option that was not given. -/
def consult (environment : String → Option String) (b : Bindings) (s : Switch) :
    Except UsageError Bindings :=
  match s.effect, s.fromVariable.bind environment with
  | .take kind, some text => if b.has s.name then .ok b else b.add ⟨s.name, kind, false⟩ [text]
  | _, _ => .ok b

def finish (g : Grammar) (environment : String → Option String) (r : Reading) :
    Except UsageError Bindings := do
  let r ← r.settle
  let b ← g.switches.foldlM (consult environment) r.bound
  match g.exclusive.find? fun p => b.has p.1 && b.has p.2 with
  | some p => .error (.conflict p.1)
  | none => .ok b

end Grammar

end ChargingRegister.Console
