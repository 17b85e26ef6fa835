import ChargingRegister.Calendar.Lenient
import ChargingRegister.Store.Fault
import ChargingRegister.Store.Like
import ChargingRegister.Store.Memory

/-!
# The store in a relational database

Two tables that migrations create and drop. A station's row keeps lowercase copies of its name
and place, and searching and ordering look at those copies alone; every write renews them. The time
in a row is an instant as long as its text can be read. Each table remembers the highest number it
ever held, so a number is not given out again while the table stands.
-/
namespace ChargingRegister

inductive TimeCell where
  | instant (i : Instant)
  | illegible (text : String)
  deriving DecidableEq

namespace TimeCell

def ofText (text : String) : TimeCell :=
  match Instant.ofStored? text with
  | some i => .instant i
  | none => .illegible text

def written : TimeCell → String
  | .instant i => i.written
  | .illegible text => text

end TimeCell

structure StationRow where
  id : Int
  name : String
  location : Option String
  nameKey : String
  locationKey : Option String
  status : String
  lastUpdated : TimeCell
  deriving DecidableEq

namespace StationRow

/-- What a write puts into the table. -/
def ofStation (id : Int) (now : Instant) (s : Station) : StationRow :=
  { id
    name := s.name
    location := s.location
    nameKey := Text.lowercase s.name
    locationKey := s.location.map Text.lowercase
    status := s.status.token
    lastUpdated := .instant now }

def stationAt (r : StationRow) (time : Instant) : Station :=
  ⟨r.id, r.name, r.location, Status.ofText r.status, some time⟩

/-- The station in a row, or the text that should be its time. -/
def read (r : StationRow) : Except String Station :=
  match r.lastUpdated with
  | .instant i => .ok (r.stationAt i)
  | .illegible text => .error text

def listingKey (r : StationRow) : ListingKey :=
  ⟨r.nameKey, r.name, r.id⟩

def likeText (pattern : List Char) (r : StationRow) : Bool :=
  Like.matches? pattern r.nameKey.toList ||
    r.locationKey.any fun key => Like.matches? pattern key.toList

end StationRow

structure Table (Row : Type) where
  rows : List Row
  /-- The highest number the table ever held, at least zero. -/
  highest : Int
  deriving DecidableEq

namespace Table

def empty {Row : Type} : Table Row :=
  ⟨[], 0⟩

def maxNumber : Int := 0x7FFFFFFFFFFFFFFF

/-- The number for a new row, while there is one. -/
def nextNumber? {Row : Type} (t : Table Row) : Option Int :=
  if t.highest < maxNumber then some (t.highest + 1) else none

/-- Adds a row under its number, which the table remembers. -/
def add {Row : Type} (t : Table Row) (number : Int) (row : Row) : Table Row :=
  ⟨t.rows ++ [row], max t.highest number⟩

end Table

structure Database where
  stations : Option (Table StationRow)
  accounts : Option (Table Account)
  deriving DecidableEq

namespace Database

/-- Before any migration. -/
def blank : Database :=
  ⟨none, none⟩

/-- After all migrations, with nothing in it. -/
def fresh : Database :=
  ⟨some .empty, some .empty⟩

def upgrade (db : Database) : Database :=
  match db.stations, db.accounts with
  | none, accounts => ⟨some .empty, accounts⟩
  | stations, none => ⟨stations, some .empty⟩
  | _, _ => db

def downgrade (db : Database) : Database :=
  match db.accounts with
  | some _ => { db with accounts := none }
  | none => ⟨none, none⟩

def migrationCount : Nat := 2

def migrate (steps : Nat) (db : Database) : Database :=
  (min steps migrationCount).repeat upgrade db

def revert (steps : Nat) (db : Database) : Database :=
  (min steps migrationCount).repeat downgrade db

/-- A failure of an operation: a statement that writes is executed, one that reads is a query. -/
def failure (op : StoreOp) (fault : Fault) : RegistryError :=
  let lead := if op.kind.writes then "Execution Error: " else "Query Error: "
  .storageFailure op.kind.name (lead ++ fault.message)

/-- A row that the statement found and whose time cannot be read. -/
def illegibleTime (op : StoreOp) (text : String) : RegistryError :=
  .storageFailure op.kind.name
    ("Query Error: error occurred while decoding column \"last_updated\": invalid datetime: " ++
      text)

def readRow (op : StoreOp) (r : StationRow) : Except RegistryError Station :=
  r.read.mapError (illegibleTime op)

/-- Rows in the order of a listing. The first that cannot be read spoils it. -/
def listedRows (op : StoreOp) (rows : List StationRow) : Except RegistryError (List Station) :=
  (rows.mergeSort fun a b => a.listingKey.le b.listingKey).mapM (readRow op)

/-- The pattern that finds a text, whatever its case, anywhere in a key. -/
def searchPattern (text : String) : List Char :=
  Like.containing (Text.lowercase text).toList

/-- The rows that a search finds; the pattern is measured only when there is a row to compare. -/
def searchRows (text : String) (rows : List StationRow) : Except RegistryError (List Station) :=
  let pattern := searchPattern text
  if !rows.isEmpty && Like.maxPatternBytes < (String.ofList pattern).utf8ByteSize then
    .error (failure (.search text) .patternTooLong)
  else listedRows (.search text) (rows.filter (·.likeText pattern))

def onStations (db : Database) (op : StoreOp)
    (statement : Table StationRow → StoreReply op × Table StationRow) : StoreReply op × Database :=
  match db.stations with
  | none => (.error (failure op (.noTable "stations")), db)
  | some t =>
    let after := statement t
    (after.1, { db with stations := some after.2 })

def onAccounts (db : Database) (op : StoreOp)
    (statement : Table Account → StoreReply op × Table Account) : StoreReply op × Database :=
  match db.accounts with
  | none => (.error (failure op (.noTable "users")), db)
  | some t =>
    let after := statement t
    (after.1, { db with accounts := some after.2 })

def insertStation (now : Instant) (station : Station) (t : Table StationRow) :
    StoreReply (.insert station) × Table StationRow :=
  match t.nextNumber? with
  | none => (.error (failure (.insert station) .full), t)
  | some id =>
    let row := StationRow.ofStation id now station
    (.ok (row.stationAt now), t.add id row)

/-- A username stands in one row at most; a refused row takes no number. -/
def insertAccount (username passwordHash : String) (t : Table Account) :
    StoreReply (.createAccount username passwordHash) × Table Account :=
  if t.rows.any (·.username == username) then (.error usernameTaken, t)
  else match t.nextNumber? with
    | none => (.error (failure (.createAccount username passwordHash) .full), t)
    | some id =>
      let account : Account := ⟨id, username, passwordHash⟩
      (.ok account, t.add id account)

def updateRows (now : Instant) (station : Station) (rows : List StationRow) : List StationRow :=
  rows.map fun r => if r.id = station.id then .ofStation r.id now station else r

def hasTable (db : Database) (op : StoreOp) : Bool :=
  match op.kind with
  | .findAccount | .createAccount | .countAccounts => db.accounts.isSome
  | _ => db.stations.isSome

def handle (now : Instant) : Handler Database
  | .insert station, db => db.onStations _ (insertStation now station)
  | .update station, db => db.onStations (.update station) fun t =>
    (.ok (t.rows.any (·.id == station.id)), { t with rows := updateRows now station t.rows })
  | .delete id, db => db.onStations (.delete id) fun t =>
    (.ok (t.rows.any (·.id == id)), { t with rows := t.rows.filter (·.id != id) })
  | .findById id, db => db.onStations (.findById id) fun t =>
    ((t.rows.find? (·.id == id)).mapM (readRow (.findById id)), t)
  | .findAll, db => db.onStations .findAll fun t => (listedRows .findAll t.rows, t)
  | .search text, db => db.onStations (.search text) fun t => (searchRows text t.rows, t)
  | .findAccount username, db => db.onAccounts (.findAccount username) fun t =>
    (.ok (t.rows.find? (·.username == username)), t)
  | .createAccount username passwordHash, db =>
    db.onAccounts _ (insertAccount username passwordHash)
  | .countAccounts, db => db.onAccounts .countAccounts fun t => (.ok t.rows.length, t)

end Database

end ChargingRegister
