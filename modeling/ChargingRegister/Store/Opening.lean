import ChargingRegister.Store.Address

/-!
# Names of databases

A name that begins with `file:` is itself a URL: a path without a host, in which percent signs are
decoded, and options that may narrow the access down but not widen it. Any other name is a path as
it is written. The empty path and `:memory:` stand for a database of their own that is gone when
it is closed, and so does every path when files are kept in memory.
-/
namespace ChargingRegister

/-- How a database may be used. Each way allows what those before it allow. -/
inductive Access where
  | readOnly
  | readWrite
  | create
  /-- In memory instead of a file. -/
  | memory
  deriving DecidableEq, Repr

namespace Access

def rank : Access → Nat
  | .readOnly => 0
  | .readWrite => 1
  | .create => 2
  | .memory => 3

def ofName? : String → Option Access
  | "ro" => some .readOnly
  | "rw" => some .readWrite
  | "rwc" => some .create
  | "memory" => some .memory
  | _ => none

end Access

/-- How files are kept. -/
inductive Backend where
  | files
  | memory
  deriving DecidableEq, Repr

def Backend.ofName? (name : String) : Option Backend :=
  if ["unix", "unix-none", "unix-dotfile", "unix-excl"].contains name then some .files
  else if name = "memdb" then some .memory
  else none

/-- What there is to open. -/
structure Opening where
  path : String
  access : Access
  immutable : Bool
  backend : Backend
  /-- A file that must be there, because a new file gets its permissions. -/
  model : Option String
  deriving DecidableEq, Repr

namespace Opening

def untilNull (cs : List Char) : List Char :=
  cs.takeWhile (· != '\x00')

/-- The text of a path, of an option or of its value. -/
def optionDecoded (cs : List Char) : String :=
  String.ofList (untilNull (Utf8.decodeLossy (Url.percentDecoded cs)))

def leadingNumber (base n : Nat) : List Char → Nat
  | [] => n
  | c :: cs =>
    match (Json.hexValue? c).filter (· < base) with
    | some d => leadingNumber base (n * base + d) cs
    | none => n

/-- A number of 31 bits that is not zero in its last eight. -/
def isTrueNumber (n : Nat) : Bool :=
  n < 0x80000000 && n % 256 != 0

/-- A value begins with a true number, in decimal or behind `0x`, or it is a word that says so. -/
def isTrue (value : String) : Bool :=
  let isWord (cs : List Char) : Bool :=
    ["on", "yes", "true"].contains (String.ofList (cs.map Char.toLower))
  match value.toList with
  | '0' :: x :: c :: cs =>
    if (x = 'x' || x = 'X') && (Json.hexValue? c).isSome then
      isTrueNumber (leadingNumber 16 0 (c :: cs))
    else isTrueNumber (leadingNumber 10 0 (x :: c :: cs))
  | c :: cs =>
    if Decimal.isDigit c then isTrueNumber (leadingNumber 10 0 (c :: cs)) else isWord (c :: cs)
  | [] => false

/-- Names and values of options. An option without a name is no option. -/
def options (cs : List Char) : List (String × String) :=
  ((Text.split '&' cs).map fun part =>
    (optionDecoded (Url.cut '=' part).1, optionDecoded (Url.cut '=' part).2)).filter (·.1 ≠ "")

def withOption (access : Access) : String × String → Except Fault Access
  | ("mode", value) =>
    match Access.ofName? value with
    | none => .error (.unknownMode "access" value)
    | some .memory => .ok .memory
    | some wanted =>
      if wanted.rank ≤ access.rank then .ok wanted else .error (.deniedAccess value)
  | ("cache", value) =>
    if value == "private" || value == "shared" then .ok access
    else .error (.unknownMode "cache" value)
  | _ => .ok access

def backendNamed (name : String) : Except Fault Backend :=
  match Backend.ofName? name with
  | some b => .ok b
  | none => .error (.unknownBackend name)

/-- The path of a file URL behind two slashes, which name this machine or none. -/
def withoutHost (cs : List Char) : Except Fault (List Char) :=
  let host := cs.takeWhile (· != '/')
  if host = [] ∨ host = "localhost".toList then .ok (cs.drop host.length)
  else .error (.foreignHost (String.ofList host))

/-- Reads a name behind `file:`. -/
def ofFileUrl (access : Access) (cs : List Char) : Except Fault Opening := do
  let cs ← match cs with
    | '/' :: '/' :: rest => withoutHost rest
    | cs => .ok cs
  let (path, query) := Url.cut '?' (cs.takeWhile (· != '#'))
  let options := options query
  let access ← options.foldlM withOption access
  let backend ← match options.reverse.lookup "vfs" with
    | some name => backendNamed name
    | none => .ok .files
  return ⟨optionDecoded path, access, (options.lookup "immutable").any isTrue, backend,
    options.lookup "modeof"⟩

def accessOf (a : Address) : Access :=
  if a.readOnly then .readOnly else if a.create then .create else .readWrite

/-- What an address opens. With a backend or as immutable its name is a path as it is written, and
blanks in the name of the backend become plus signs. -/
def ofAddress (a : Address) : Except AddressError Opening :=
  let name := a.name.toList
  if a.immutable || a.backend.isSome then do
    let backend ← match a.backend with
      | some b =>
        (backendNamed (String.ofList
          (untilNull (b.toList.map fun c => if c = ' ' then '+' else c)))).mapError .fault
      | none => .ok .files
    return ⟨String.ofList (untilNull name), accessOf a, a.immutable, backend, none⟩
  else if name.contains '\x00' then .error .nullInName
  else if "file:".toList.isPrefixOf name then
    (ofFileUrl (accessOf a) (name.drop 5)).mapError .fault
  else .ok ⟨a.name, accessOf a, false, .files, none⟩

/-- The database has a place in memory from the start. -/
def isTransient (o : Opening) : Bool :=
  o.access = .memory || o.path = "" || o.path = Address.memoryName

def file? (o : Opening) : Option String :=
  if o.isTransient || o.backend = .memory then none else some o.path

/-- Nothing can be written. What is in memory from the start does not look at whether it is
immutable. -/
def isReadOnly (o : Opening) : Bool :=
  o.access = .readOnly || (o.immutable && !o.isTransient)

def ofUrl (url : String) : Except AddressError Opening :=
  (Address.ofUrl url).bind ofAddress

end Opening

end ChargingRegister
