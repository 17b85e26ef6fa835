import ChargingRegister.Store.Memory

/-!
# The record under a number

What a store in memory holds is looked up by number. Each operation on records replies from what is
looked up, and changes it at its own number alone.
-/
namespace ChargingRegister.MemoryStore

def lookup (m : MemoryStore) (id : Int) : Option Station :=
  m.stations.find? (·.id == id)

theorem id_of_lookup {m : MemoryStore} {id : Int} {r : Station} (h : m.lookup id = some r) :
    r.id = id := by
  simpa using List.find?_some h

theorem find?_replace (s : Station) (stations : List Station) (id : Int) :
    (replace s stations).find? (·.id == id) =
      if id = s.id then (stations.find? (·.id == id)).map fun _ => s
      else stations.find? (·.id == id) := by
  have hid : ((·.id == id) ∘ fun r : Station => if r.id = s.id then s else r) = (·.id == id) := by
    funext r
    by_cases hr : r.id = s.id <;> simp [hr]
  rw [replace, List.find?_map, hid]
  cases hfound : stations.find? (·.id == id) with
  | none => simp
  | some r =>
    have hr : r.id = id := by simpa using List.find?_some hfound
    by_cases hs : id = s.id <;> simp [hr, hs]

theorem find?_filter (stations : List Station) (removed id : Int) :
    (stations.filter (·.id != removed)).find? (·.id == id) =
      if id = removed then none else stations.find? (·.id == id) := by
  rw [List.find?_filter]
  split
  case isTrue hid =>
    rw [List.find?_eq_none]
    simp [hid]
  case isFalse hid =>
    refine congrArg (List.find? · stations) (funext fun r => ?_)
    by_cases hr : r.id = id
    · simp [hr, hid]
    · simp [hr]

section

variable (m : MemoryStore) (now : Instant) (s : Station) (id : Int)

theorem any_id : m.stations.any (·.id == id) = (m.lookup id).isSome := by
  rw [Bool.eq_iff_iff, lookup, List.find?_isSome, List.any_eq_true]

theorem handle_update : (handle now (.update s) m).1 = .ok (m.lookup s.id).isSome :=
  congrArg Except.ok (m.any_id s.id)

theorem handle_delete : (handle now (.delete id) m).1 = .ok (m.lookup id).isSome :=
  congrArg Except.ok (m.any_id id)

theorem handle_findById : handle now (.findById id) m = (.ok (m.lookup id), m) := rfl

theorem lookup_update : (handle now (.update s) m).2.lookup id =
    if id = s.id then (m.lookup id).map fun _ => { s with lastUpdated := some now }
    else m.lookup id :=
  find?_replace { s with lastUpdated := some now } m.stations id

theorem lookup_delete (removed : Int) : (handle now (.delete removed) m).2.lookup id =
    if id = removed then none else m.lookup id :=
  find?_filter m.stations removed id

end

theorem lookup_insert {m : MemoryStore} (hfresh : m.lookup m.nextStation = none) (now : Instant)
    (s : Station) (id : Int) : (handle now (.insert s) m).2.lookup id =
      if id = m.nextStation then some { s with id := m.nextStation, lastUpdated := some now }
      else m.lookup id := by
  rw [lookup] at hfresh
  have happend : (handle now (.insert s) m).2.lookup id =
      (m.stations ++ [{ s with id := m.nextStation, lastUpdated := some now }]).find?
        (·.id == id) := rfl
  rw [happend, List.find?_append]
  split
  case isTrue hid =>
    subst hid
    simp [hfresh]
  case isFalse hid => simp [lookup, Ne.symm hid]

end ChargingRegister.MemoryStore
