import ChargingRegister.Store.Database
import ChargingRegister.Store.Opening

/-!
# Database files

A volume knows which directories there are and what each file holds. Opening a file needs its
directory, and the file itself unless it may be created. Relative paths start at the working
directory. A path is followed name by name, and two dots go back even where there is nothing, but
no way leads through a file.
-/
namespace ChargingRegister

/-- The names on the way from the root. -/
abbrev Path := List String

inductive FileContent where
  | database (db : Database)
  | other
  deriving DecidableEq

structure Volume where
  workingDirectory : Path
  directories : List Path
  files : List (Path × FileContent)

namespace Path

/-- One more name on the way: empty ones and a single dot stay, two dots go back. -/
def follow (p : Path) (name : List Char) : Path :=
  if name = [] ∨ name = ['.'] then p
  else if name = ['.', '.'] then p.dropLast
  else p ++ [String.ofList name]

def names (text : String) : List (List Char) :=
  Text.split '/' text.toList

def origin (start : Path) (text : String) : Path :=
  if text.toList.head? = some '/' then [] else start

def resolve (start : Path) (text : String) : Path :=
  (names text).foldl follow (origin start text)

def maxNameBytes : Nat := 255

/-- A path and what ends it, or the ending of its journal, have no more bytes. -/
def maxBytes : Nat := 512

def byteLength (p : Path) : Nat :=
  p.foldl (fun n name => n + name.utf8ByteSize + 1) 0

def journalBytes : Nat :=
  "-journal".utf8ByteSize

/-- A file whose name has room for the ending of its journal. -/
def hasJournal (p : Path) : Bool :=
  match p.getLast? with
  | some name => name.utf8ByteSize + journalBytes ≤ maxNameBytes
  | none => false

end Path

/-- A database that is open: where it goes back to, and what a change would meet. -/
structure OpenDatabase where
  file : Option Path
  obstacle : Option Fault
  content : FileContent

namespace Volume

def lookup (v : Volume) (p : Path) : Option FileContent :=
  v.files.lookup p

def put (v : Volume) (p : Path) (content : FileContent) : Volume :=
  { v with files := (p, content) :: v.files.filter (·.1 != p) }

@[simp] theorem lookup_put (v : Volume) (p : Path) (content : FileContent) :
    (v.put p content).lookup p = some content := by
  simp [lookup, put]

/-- One more name on the way to a database, which leads through no file, has no long name in a
directory and is not long itself. -/
def follow (v : Volume) (p : Path) (name : List Char) : Except Fault Path :=
  let next := p.follow name
  let isLong := Path.maxNameBytes < (String.ofList name).utf8ByteSize
  if p.length < next.length ∧ ((v.lookup p).isSome ∨ v.directories.contains p ∧ isLong ∨
      Path.maxBytes ≤ next.byteLength)
  then .error .cannotOpen else .ok next

/-- Where the path of a database leads. -/
def place (v : Volume) (text : String) : Except Fault Path :=
  (Path.names text).foldlM v.follow (Path.origin v.workingDirectory text)

/-- Where a path leads through directories that are there, each name being looked up. -/
def walk? (v : Volume) (text : String) : Option Path :=
  (Path.names text).foldlM (fun p name =>
    if v.directories.contains p then some (p.follow name) else none)
    (Path.origin v.workingDirectory text)

def isThere (v : Volume) (text : String) : Bool :=
  text ≠ "" && (v.walk? text).any fun p => v.directories.contains p || (v.lookup p).isSome

/-- Opens the file at a path. A new file holds a database without tables. -/
def openFile (v : Volume) (o : Opening) (text : String) : Except Fault OpenDatabase := do
  let p ← v.place text
  let obstacle : Option Fault :=
    if o.isReadOnly then some .readOnly
    else if p.hasJournal then none else some .cannotOpen
  if p = [] ∨ Path.maxBytes < p.byteLength + Path.journalBytes then .error .cannotOpen
  else if o.model.any (!v.isThere ·) then .error .noModel
  else if v.directories.contains p then
    .error (if o.access = .readOnly then .unreadable else .cannotOpen)
  else if !v.directories.contains p.dropLast then .error .cannotOpen
  else match v.lookup p with
    | some content => .ok ⟨some p, obstacle, content⟩
    | none =>
      if o.access = .create then .ok ⟨some p, obstacle, .database .blank⟩
      else .error .cannotOpen

def openDatabase (v : Volume) (o : Opening) : Except Fault OpenDatabase :=
  match o.file? with
  | some text => v.openFile o text
  | none => .ok ⟨none, if o.isReadOnly then some .readOnly else none, .database .blank⟩

def failure (reason : String) : RegistryError :=
  .storageFailure "connect" ("Connection Error: " ++ reason)

def openUrl (v : Volume) (url : String) : Except RegistryError OpenDatabase :=
  match Opening.ofUrl url with
  | .error e => .error (failure e.message)
  | .ok o => (v.openDatabase o).mapError fun f => failure f.message

/-- Puts an open database back into its file. -/
def close (v : Volume) (o : OpenDatabase) : Volume :=
  match o.file with
  | some p => v.put p o.content
  | none => v

end Volume

namespace OpenDatabase

def migrationFailure (f : Fault) : RegistryError :=
  .storageFailure "migrate" ("Execution Error: " ++ f.message)

/-- Applies all migrations. A database that needs none meets no obstacle. -/
def migrate (o : OpenDatabase) : Except RegistryError OpenDatabase :=
  match o.content with
  | .other => .error (migrationFailure .notDatabase)
  | .database db =>
    let after := db.migrate Database.migrationCount
    match o.obstacle with
    | none => .ok { o with content := .database after }
    | some f => if after = db then .ok o else .error (migrationFailure f)

/-- As the database itself, except that writing to a table that is there may meet an obstacle. -/
def handle (now : Instant) : Handler OpenDatabase := fun op o =>
  match o.content with
  | .other => (.error (Database.failure op .notDatabase), o)
  | .database db =>
    match o.obstacle with
    | none =>
      let after := db.handle now op
      (after.1, { o with content := .database after.2 })
    | some f =>
      if op.kind.writes && db.hasTable op then (.error (Database.failure op f), o)
      else ((db.handle now op).1, o)

end OpenDatabase

end ChargingRegister
