import ChargingRegister.Proofs.Listing.Order
import ChargingRegister.Proofs.Store.Run

/-!
# A store in memory apart from its times

The store in memory stamps what it writes and never looks at a stamp again. So two runs of the
same operations under two clocks differ in the stamps alone, in every reply and in what the store
holds.
-/
namespace ChargingRegister

namespace Station

/-- The record without the time of its last change. -/
def timeless (s : Station) : Station :=
  { s with lastUpdated := none }

@[simp] theorem timeless_stamped (s : Station) (time : Option Instant) :
    ({ s with lastUpdated := time } : Station).timeless = s.timeless := rfl

@[simp] theorem timeless_comp_timeless : timeless ∘ timeless = timeless := rfl

end Station

def StoreOp.timeless : (op : StoreOp) → op.Answer → op.Answer
  | .insert _, station => station.timeless
  | .update _, met => met
  | .delete _, met => met
  | .findById _, found => found.map Station.timeless
  | .findAll, stations => stations.map Station.timeless
  | .search _, stations => stations.map Station.timeless
  | .findAccount _, found => found
  | .createAccount _ _, account => account
  | .countAccounts, count => count

def StoreAnswer.timeless (a : StoreAnswer) : StoreAnswer :=
  ⟨a.1, a.2.map a.1.timeless⟩

theorem timeless_listed (stations : List Station) :
    (listed stations).map Station.timeless = listed (stations.map Station.timeless) :=
  listed_map Station.listingKey Station.timeless fun _ _ => rfl

namespace MemoryStore

def timeless (m : MemoryStore) : MemoryStore :=
  { m with stations := m.stations.map Station.timeless }

theorem timeless_replace (station : Station) (stations : List Station) :
    (replace station stations).map Station.timeless =
      replace station.timeless (stations.map Station.timeless) := by
  rw [replace, replace, List.map_map, List.map_map]
  apply List.map_congr_left
  intro s _
  exact apply_ite Station.timeless (s.id = station.id) station s

/-- Neither the clock nor the stamps in the store show, but in the stamps of the reply. -/
theorem handle_timeless (now now' : Instant) (op : StoreOp) (m : MemoryStore) :
    (handle now op m).1.map op.timeless = (handle now' op m.timeless).1.map op.timeless ∧
      (handle now op m).2.timeless = (handle now' op m.timeless).2.timeless := by
  cases op with
  | insert s => simp [handle, timeless, Except.map, StoreOp.timeless, Station.timeless]
  | update s =>
    have hmet : (m.stations.map Station.timeless).any (·.id == s.id) =
        m.stations.any (·.id == s.id) := List.any_map
    simp [handle, timeless, timeless_replace, hmet]
  | delete id =>
    have hmet : (m.stations.map Station.timeless).any (·.id == id) =
        m.stations.any (·.id == id) := List.any_map
    have hkept : (m.stations.map Station.timeless).filter (·.id != id) =
        (m.stations.filter (·.id != id)).map Station.timeless := List.filter_map
    simp [handle, timeless, hmet, hkept]
  | findById id =>
    have hfound : (m.stations.map Station.timeless).find? (·.id == id) =
        (m.stations.find? (·.id == id)).map Station.timeless := List.find?_map
    simp [handle, timeless, Except.map, StoreOp.timeless, hfound]
  | findAll => simp [handle, timeless, Except.map, StoreOp.timeless, timeless_listed]
  | search text =>
    have hfound : (m.stations.map Station.timeless).filter
          (·.matchesText (Text.lowercase text)) =
        (m.stations.filter (·.matchesText (Text.lowercase text))).map Station.timeless :=
      List.filter_map
    simp [handle, timeless, Except.map, StoreOp.timeless, timeless_listed, hfound]
  | findAccount username => simp [handle, timeless]
  | createAccount username passwordHash =>
    by_cases h : m.accounts.any (·.username == username) <;> simp [handle, timeless, h]
  | countAccounts => simp [handle, timeless]

/-- Two clocks and two stores that differ in stamps answer alike. -/
theorem runCalls_timeless (clock clock' : Clock) (ops : List StoreOp) {m m' : MemoryStore}
    (h : m.timeless = m'.timeless) :
    (runCalls handle clock ops m).1.map StoreAnswer.timeless =
        (runCalls handle clock' ops m').1.map StoreAnswer.timeless ∧
      (runCalls handle clock ops m).2.timeless = (runCalls handle clock' ops m').2.timeless := by
  induction ops generalizing clock clock' m m' with
  | nil => exact ⟨rfl, h⟩
  | cons op ops ih =>
    obtain ⟨hreply, hstate⟩ := handle_timeless (clock 0) (clock' 0) op m
    obtain ⟨hreply', hstate'⟩ := handle_timeless (clock' 0) (clock' 0) op m'
    rw [h] at hreply hstate
    obtain ⟨hanswers, hend⟩ := ih clock.tail clock'.tail (hstate.trans hstate'.symm)
    have hhead : StoreAnswer.timeless ⟨op, (handle (clock 0) op m).1⟩ =
        StoreAnswer.timeless ⟨op, (handle (clock' 0) op m').1⟩ :=
      congrArg (Sigma.mk op) (hreply.trans hreply'.symm)
    rw [runCalls_cons, runCalls_cons]
    exact ⟨congrArg₂ List.cons hhead hanswers, hend⟩

end MemoryStore

end ChargingRegister
