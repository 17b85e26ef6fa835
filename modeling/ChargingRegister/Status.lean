import ChargingRegister.Text.Parts

/-!
# Operating status of a station

A status has a token, under which it is stored, and a label, which operators read. Both are
recognised without regard to the case of ASCII letters.
-/
namespace ChargingRegister

inductive Status where
  | available
  | charging
  | outOfService
  deriving DecidableEq, Repr

namespace Status

def all : List Status := [.available, .charging, .outOfService]

/-- The text kept in the store. -/
def token : Status → String
  | .available => "AVAILABLE"
  | .charging => "CHARGING"
  | .outOfService => "OUT_OF_SERVICE"

/-- The text shown to operators. -/
def label : Status → String
  | .available => "Available"
  | .charging => "Charging"
  | .outOfService => "Out of service"

/-- The name in exchanged records. -/
def name : Status → String
  | .available => "Available"
  | .charging => "Charging"
  | .outOfService => "OutOfService"

def unknown : Status := .outOfService

instance : Inhabited Status := ⟨unknown⟩

def sameLetters (a b : List Char) : Bool :=
  a.map Char.toLower == b.map Char.toLower

def isNamedBy (text : List Char) (status : Status) : Bool :=
  sameLetters status.token.toList text || sameLetters status.label.toList text

def ofChars? (cs : List Char) : Option Status :=
  all.find? (isNamedBy (Text.trimmed cs))

/-- A token or a label, with blanks around it allowed. -/
def ofText? (text : String) : Option Status :=
  ofChars? text.toList

/-- Reading what a store holds never fails: unrecognised text counts as out of service. -/
def ofText (text : String) : Status :=
  (ofText? text).getD unknown

def ofName? (name : String) : Option Status :=
  all.find? (·.name == name)

/-- Dashes and spaces as word separators become the underscores of the token. -/
def underscored (cs : List Char) : List Char :=
  cs.map fun c => if c = '-' ∨ c = ' ' then '_' else c

/-- What an operator types: as `ofText?`, and also the token with other separators. -/
def ofArgument? (text : String) : Option Status :=
  ofChars? text.toList <|> ofChars? (underscored text.toList)

/-- The complaint about a status that an operator typed. -/
def unrecognised (text : String) : String :=
  "unknown status '" ++ text ++ "', expected one of: " ++
    String.intercalate ", " (all.map label)

def readArgument (text : String) : Except String Status :=
  match ofArgument? text with
  | some s => .ok s
  | none => .error (unrecognised text)

theorem ofText_token (s : Status) : ofText s.token = s := by
  cases s <;> decide

theorem ofText_label (s : Status) : ofText s.label = s := by
  cases s <;> decide

theorem ofName?_name (s : Status) : ofName? s.name = some s := by
  cases s <;> decide

theorem mem_all (s : Status) : s ∈ all := by
  cases s <;> decide

end Status

end ChargingRegister
