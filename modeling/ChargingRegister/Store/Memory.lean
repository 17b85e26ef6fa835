import ChargingRegister.Store.Operation

/-!
# The store in memory

Stations and accounts in the order they came, with the next number of each. Numbers count up
from one and are never given out twice. Every write stamps the record with the current instant.
-/
namespace ChargingRegister

/-- The listing order: by lowercase name, then name, then number. -/
def listed (stations : List Station) : List Station :=
  stations.mergeSort fun a b => a.listingKey.le b.listingKey

def usernameTaken : RegistryError :=
  .invalidInput "create_user" "username already exists"

structure MemoryStore where
  stations : List Station
  nextStation : Int
  accounts : List Account
  nextAccount : Int
  deriving DecidableEq

namespace MemoryStore

def empty : MemoryStore :=
  ⟨[], 1, [], 1⟩

def replace (station : Station) (stations : List Station) : List Station :=
  stations.map fun s => if s.id = station.id then station else s

def handle (now : Instant) : Handler MemoryStore
  | .insert station, m =>
    let stored := { station with id := m.nextStation, lastUpdated := some now }
    (.ok stored, { m with
      stations := m.stations ++ [stored]
      nextStation := m.nextStation + 1 })
  | .update station, m =>
    (.ok (m.stations.any (·.id == station.id)), { m with
      stations := replace { station with lastUpdated := some now } m.stations })
  | .delete id, m =>
    (.ok (m.stations.any (·.id == id)), { m with
      stations := m.stations.filter (·.id != id) })
  | .findById id, m => (.ok (m.stations.find? (·.id == id)), m)
  | .findAll, m => (.ok (listed m.stations), m)
  | .search text, m =>
    (.ok (listed (m.stations.filter (·.matchesText (Text.lowercase text)))), m)
  | .findAccount username, m => (.ok (m.accounts.find? (·.username == username)), m)
  | .createAccount username passwordHash, m =>
    if m.accounts.any (·.username == username) then (.error usernameTaken, m)
    else
      let account := ⟨m.nextAccount, username, passwordHash⟩
      (.ok account, { m with
        accounts := m.accounts ++ [account]
        nextAccount := m.nextAccount + 1 })
  | .countAccounts, m => (.ok m.accounts.length, m)

end MemoryStore

end ChargingRegister
