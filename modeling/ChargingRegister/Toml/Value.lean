/-!
# Values of a configuration document

Tables are lists of entries with distinct keys. Floating point numbers and dates are told apart
from the other values, and nothing more is kept of them.
-/
namespace ChargingRegister.Toml

inductive Value where
  | string (text : String)
  | integer (value : Int)
  | float
  | boolean (value : Bool)
  | datetime
  | array (items : List Value)
  | table (entries : List (String × Value))

abbrev Document := List (String × Value)

/-- How a table came about. -/
inductive Origin where
  /-- By a header of its own. -/
  | header
  /-- On the way to the table of a longer header. -/
  | implied
  /-- On the way to the last part of a dotted key. -/
  | dotted
  deriving DecidableEq

/-- What a key holds while the document is read. -/
inductive Node where
  | value (v : Value)
  | table (origin : Origin) (entries : List (String × Node))
  /-- An array of tables, the last one first. -/
  | tables (last : List (String × Node)) (earlier : List (List (String × Node)))

abbrev Entries := List (String × Node)

mutual

def Node.toValue : Node → Value
  | .value v => v
  | .table _ entries => .table (toDocument entries)
  | .tables last earlier => .array (toTables earlier [.table (toDocument last)])

def toDocument : List (String × Node) → List (String × Value)
  | [] => []
  | (key, n) :: rest => (key, n.toValue) :: toDocument rest

/-- The tables of an array in the order written, before those already there. -/
def toTables : List (List (String × Node)) → List Value → List Value
  | [], done => done
  | entries :: rest, done => toTables rest (.table (toDocument entries) :: done)

end

/-- Replaces what a key holds, or adds the key. -/
def upsert (key : String) (f : Option Node → Option Node) : Entries → Option Entries
  | [] => (f none).map fun n => [(key, n)]
  | (k, n) :: rest =>
    if k = key then (f (some n)).map fun n => (k, n) :: rest
    else (upsert key f rest).map fun rest => (k, n) :: rest

/-- Goes down a path of keys to a table and changes it there. `made` is the origin of tables that
are missing on the way; a dotted key does not enter a table that has a header. An array of tables
is entered at its last one. -/
def descend (made : Origin) (f : Origin → Entries → Option Entries) :
    List String → Origin → Entries → Option Entries
  | [], origin, entries => f origin entries
  | key :: path, _, entries =>
    upsert key (fun
      | none => (descend made f path made []).map (.table made)
      | some (.value _) => none
      | some (.table origin inner) =>
        if made = .dotted ∧ origin = .header then none
        else (descend made f path origin inner).map (.table origin)
      | some (.tables last earlier) =>
        (descend made f path .header last).map fun last => .tables last earlier) entries

def addNew (key : String) (n : Node) (entries : Entries) : Option Entries :=
  if entries.any (·.1 == key) then none else some (entries ++ [(key, n)])

/-- Assigns a value to a dotted key. All tables on the way were made by dotted keys. -/
def assign (path : List String) (key : String) (v : Value) (origin : Origin) (entries : Entries) :
    Option Entries :=
  descend .dotted (fun reached entries =>
    if path.isEmpty || reached = .dotted then addNew key (.value v) entries else none)
    path origin entries

/-- Opens the table of a header; at most a longer header has named it before. -/
def openTable (path : List String) (key : String) (root : Entries) : Option Entries :=
  descend .implied (fun _ entries =>
    upsert key (fun
      | none => some (.table .header [])
      | some (.table .implied inner) => some (.table .header inner)
      | some _ => none) entries) path .header root

def openElement (path : List String) (key : String) (root : Entries) : Option Entries :=
  descend .implied (fun _ entries =>
    upsert key (fun
      | none => some (.tables [] [])
      | some (.tables last earlier) => some (.tables [] (last :: earlier))
      | some _ => none) entries) path .header root

def assignIn (current : List String) (path : List String) (key : String) (v : Value)
    (root : Entries) : Option Entries :=
  descend .implied (assign path key v) current .header root

end ChargingRegister.Toml
