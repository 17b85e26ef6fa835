import ChargingRegister.Proofs.Store.Refusal

/-!
# Calls of the register

A client calls for one record or for a listing. A call for a record can be refused; a call for a
listing is answered in any case. The programs behind all calls for a record are atomic, and those
behind the calls for a listing read once.
-/
namespace ChargingRegister.Registry

/-- A call for one record. -/
inductive RecordCall where
  | create (station : Station)
  | update (station : Station)
  | updateStatus (id : Int) (status : Status)
  | delete (id : Int)
  | find (id : Int)

namespace RecordCall

/-- What a call that is not refused returns. -/
abbrev Value : RecordCall → Type
  | .create _ => Station
  | .update _ => Bool
  | .updateStatus _ _ => Bool
  | .delete _ => Bool
  | .find _ => Option Station

def program : (c : RecordCall) → Program (Result c.Value)
  | .create station => Registry.create station
  | .update station => Registry.update station
  | .updateStatus id status => Registry.updateStatus id status
  | .delete id => Registry.delete id
  | .find id => Registry.find id

def creates : RecordCall → Bool
  | .create station => !Text.blank station.name
  | _ => false

end RecordCall

/-- A call for a listing. -/
inductive ListingCall where
  | findAll
  | search (text : String)
  | statistics

namespace ListingCall

abbrev Value : ListingCall → Type
  | .findAll => List Station
  | .search _ => List Station
  | .statistics => Tally

def program : (c : ListingCall) → Program c.Value
  | .findAll => Registry.findAll
  | .search text => Registry.search text
  | .statistics => Registry.statistics

/-- The one operation that the call needs. -/
def operation : ListingCall → StoreOp
  | .findAll => .findAll
  | .search text => if Text.blank text then .findAll else .search (Text.trim text)
  | .statistics => .findAll

def nothing : (c : ListingCall) → c.Value
  | .findAll => []
  | .search _ => []
  | .statistics => ⟨0, 0, 0, 0⟩

end ListingCall

inductive Request where
  | record (c : RecordCall)
  | listing (c : ListingCall)

namespace Request

abbrev Answer : Request → Type
  | .record c => Result c.Value
  | .listing c => c.Value

def program : (r : Request) → Program r.Answer
  | .record c => c.program
  | .listing c => c.program

def creates : Request → Bool
  | .record c => c.creates
  | .listing _ => false

/-- The answer refuses the input of a call. Listings have no such answers. -/
def RefusesInput : (r : Request) → r.Answer → Prop
  | .record _, answer => ∃ operation reason, answer = .error (.invalidInput operation reason)
  | .listing _, _ => False

end Request

def blankName (operation : String) : RegistryError :=
  .invalidInput operation "station name must not be empty"

def badId (operation : String) (id : Int) : RegistryError :=
  .invalidInput operation ("station id must be positive, got " ++ Decimal.ofInt id)

theorem checkName_of_blank {name : String} (h : Text.blank name = true) (operation : String) :
    checkName operation name = .error (blankName operation) :=
  if_pos h

theorem checkName_of_named {name : String} (h : Text.blank name = false) (operation : String) :
    checkName operation name = .ok () :=
  if_neg (Bool.eq_false_iff.mp h)

theorem checkId_of_nonpos {id : Int} (h : id ≤ 0) (operation : String) :
    checkId operation id = .error (badId operation id) :=
  if_pos h

theorem checkId_of_pos {id : Int} (h : 0 < id) (operation : String) :
    checkId operation id = .ok () :=
  if_neg (Int.not_le.mpr h)

section

variable {station : Station} {id : Int} {status : Status} {text : String}

theorem create_of_blank (h : Text.blank station.name = true) :
    create station = .done (.error (blankName "create")) := by
  rw [create, checkName_of_blank h]

theorem create_of_named (h : Text.blank station.name = false) :
    create station = .perform (.insert station) := by
  rw [create, checkName_of_named h]

theorem update_of_nonpos (h : station.id ≤ 0) :
    update station = .done (.error (badId "update" station.id)) := by
  rw [update, checkId_of_nonpos h]

theorem update_of_blank (hid : 0 < station.id) (hname : Text.blank station.name = true) :
    update station = .done (.error (blankName "update")) := by
  rw [update, checkId_of_pos hid, checkName_of_blank hname]

theorem update_of_named (hid : 0 < station.id) (hname : Text.blank station.name = false) :
    update station = .perform (.update station) := by
  rw [update, checkId_of_pos hid, checkName_of_named hname]

/-- What follows the read when a status changes. -/
def writeBack (id : Int) (status : Status) : StoreReply (.findById id) → Program (Result Bool)
  | .error e => .done (.error e)
  | .ok none => .done (.error (notFound id))
  | .ok (some station) => update { station with status }

theorem writeBack_some (id : Int) (status : Status) (station : Station) :
    writeBack id status (.ok (some station)) = update { station with status } := rfl

theorem updateStatus_of_nonpos (h : id ≤ 0) :
    updateStatus id status = .done (.error (badId "update_status" id)) := by
  rw [updateStatus, checkId_of_nonpos h]

theorem updateStatus_of_pos (h : 0 < id) :
    updateStatus id status = .call (.findById id) (writeBack id status) := by
  rw [updateStatus, checkId_of_pos h]
  rfl

theorem delete_of_nonpos (h : id ≤ 0) : delete id = .done (.error (badId "delete" id)) := by
  rw [delete, checkId_of_nonpos h]

theorem delete_of_pos (h : 0 < id) : delete id = .perform (.delete id) := by
  rw [delete, checkId_of_pos h]

theorem find_of_nonpos (h : id ≤ 0) : find id = .done (.ok none) :=
  if_pos h

theorem find_of_pos (h : 0 < id) : find id = .perform (.findById id) :=
  if_neg (Int.not_le.mpr h)

theorem search_of_blank (h : Text.blank text = true) : search text = findAll :=
  if_pos h

theorem search_of_text (h : Text.blank text = false) :
    search text = .call (.search (Text.trim text)) fun reply => .done (orNone reply) :=
  if_neg (Bool.eq_false_iff.mp h)

end

theorem create_cases (station : Station) :
    (∃ reason, create station = .done (.error (.invalidInput "create" reason))) ∨
      Text.blank station.name = false ∧ create station = .perform (.insert station) := by
  cases hname : Text.blank station.name with
  | true => exact .inl ⟨_, create_of_blank hname⟩
  | false => exact .inr ⟨rfl, create_of_named hname⟩

theorem update_cases (station : Station) :
    (∃ reason, update station = .done (.error (.invalidInput "update" reason))) ∨
      Text.blank station.name = false ∧ update station = .perform (.update station) := by
  by_cases hid : station.id ≤ 0
  · exact .inl ⟨_, update_of_nonpos hid⟩
  · cases hname : Text.blank station.name with
    | true => exact .inl ⟨_, update_of_blank (Int.not_le.mp hid) hname⟩
    | false => exact .inr ⟨rfl, update_of_named (Int.not_le.mp hid) hname⟩

theorem updateStatus_cases (id : Int) (status : Status) :
    (∃ reason, updateStatus id status = .done (.error (.invalidInput "update_status" reason))) ∨
      0 < id ∧ updateStatus id status = .call (.findById id) (writeBack id status) := by
  by_cases hid : id ≤ 0
  · exact .inl ⟨_, updateStatus_of_nonpos hid⟩
  · exact .inr ⟨Int.not_le.mp hid, updateStatus_of_pos (Int.not_le.mp hid)⟩

theorem delete_cases (id : Int) :
    (∃ reason, delete id = .done (.error (.invalidInput "delete" reason))) ∨
      delete id = .perform (.delete id) := by
  by_cases hid : id ≤ 0
  · exact .inl ⟨_, delete_of_nonpos hid⟩
  · exact .inr (delete_of_pos (Int.not_le.mp hid))

theorem find_cases (id : Int) : find id = .done (.ok none) ∨ find id = .perform (.findById id) := by
  by_cases hid : id ≤ 0
  · exact .inl (find_of_nonpos hid)
  · exact .inr (find_of_pos (Int.not_le.mp hid))

theorem named_of_unwritten {op : StoreOp} (h : op.written? = none) :
    ∀ r ∈ op.written?, Text.blank r.name = false := by
  rw [h]
  exact fun r hr => absurd hr (Option.not_mem_none r)

/-- Every program behind a call for a record refuses the input, finds nothing for want of a number,
performs one operation, or reads a record and writes it back. -/
theorem RecordCall.program_cases {P : ∀ {α : Type}, Program (Result α) → Prop}
    (refused : ∀ {α : Type} (operation reason : String),
      P (.done (.error (.invalidInput operation reason)) : Program (Result α)))
    (absent : P (.done (.ok none) : Program (Result (Option Station))))
    (performed : ∀ op : StoreOp, op.kind.ofRecord = true →
      (∀ s ∈ op.written?, Text.blank s.name = false) → P (.perform op : Program (StoreReply op)))
    (rewritten : ∀ (id : Int) (status : Status), 0 < id →
      P (.call (.findById id) (writeBack id status) : Program (Result Bool)))
    (c : RecordCall) : P c.program := by
  cases c with
  | create station =>
    rcases create_cases station with ⟨reason, h⟩ | ⟨hname, h⟩ <;> rw [program, h]
    · exact refused _ _
    · exact performed (.insert station) rfl fun s hs => Option.some.inj hs ▸ hname
  | update station =>
    rcases update_cases station with ⟨reason, h⟩ | ⟨hname, h⟩ <;> rw [program, h]
    · exact refused _ _
    · exact performed (.update station) rfl fun s hs => Option.some.inj hs ▸ hname
  | updateStatus id status =>
    rcases updateStatus_cases id status with ⟨reason, h⟩ | ⟨hid, h⟩ <;> rw [program, h]
    · exact refused _ _
    · exact rewritten id status hid
  | delete id =>
    rcases delete_cases id with ⟨reason, h⟩ | h <;> rw [program, h]
    · exact refused _ _
    · exact performed (.delete id) rfl (named_of_unwritten rfl)
  | find id =>
    rcases find_cases id with h | h <;> rw [program, h]
    · exact absent
    · exact performed (.findById id) rfl (named_of_unwritten rfl)

theorem create_atomic (station : Station) : (create station).Atomic := by
  rcases create_cases station with ⟨reason, h⟩ | ⟨-, h⟩ <;> rw [h]
  · exact .done nofun
  · exact .perform _

theorem update_atomic (station : Station) : (update station).Atomic := by
  rcases update_cases station with ⟨reason, h⟩ | ⟨-, h⟩ <;> rw [h]
  · exact .done nofun
  · exact .perform _

theorem writeBack_atomic (id : Int) (status : Status) (found : Option Station) :
    (writeBack id status (.ok found)).Atomic := by
  cases found with
  | none => exact .done nofun
  | some station => exact update_atomic _

theorem RecordCall.program_atomic (c : RecordCall) : c.program.Atomic := by
  refine c.program_cases (P := fun {_} p => p.Atomic) ?refused ?absent ?performed ?rewritten
  case refused => exact fun operation reason => .done nofun
  case absent => exact .done nofun
  case performed => exact fun op _ _ => .perform op
  case rewritten =>
    exact fun id status _ => .read rfl (fun _ => rfl) (writeBack_atomic id status)

theorem RecordCall.program_callsOnly (c : RecordCall) :
    c.program.CallsOnly [.insert, .update, .delete, .findById] := by
  cases c with
  | create station => exact (create_callsOnly station).mono (by decide)
  | update station => exact (update_callsOnly station).mono (by decide)
  | updateStatus id status => exact (updateStatus_callsOnly id status).mono (by decide)
  | delete id => exact (delete_callsOnly id).mono (by decide)
  | find id => exact (find_callsOnly id).mono (by decide)

theorem RecordCall.ofRecord_of_mem_trace (c : RecordCall) {σ : Type} (handle : Handler σ) (s : σ) :
    ∀ a ∈ c.program.trace handle s, a.1.kind.ofRecord = true := by
  intro a ha
  have hkinds : ∀ k ∈ [.insert, .update, .delete, .findById], StoreOp.Kind.ofRecord k = true := by
    decide
  exact hkinds _ (c.program_callsOnly.kind_of_mem_trace handle s a ha)

namespace ListingCall

variable {σ : Type} (handle : Handler σ)

theorem writes_operation (c : ListingCall) : c.operation.kind.writes = false := by
  cases c with
  | findAll | statistics => rfl
  | search text =>
    rw [operation]
    split <;> rfl

theorem operation_of_blank {text : String} (h : Text.blank text = true) :
    (search text).operation = .findAll :=
  if_pos h

theorem operation_of_text {text : String} (h : Text.blank text = false) :
    (search text).operation = .search (Text.trim text) :=
  if_neg (Bool.eq_false_iff.mp h)

theorem trace_program (c : ListingCall) (s : σ) :
    c.program.trace handle s = [⟨c.operation, (handle c.operation s).1⟩] := by
  cases c with
  | findAll | statistics => rfl
  | search text =>
    show (Registry.search text).trace handle s = _
    cases hblank : Text.blank text with
    | true => rw [search_of_blank hblank, operation_of_blank hblank]; rfl
    | false => rw [search_of_text hblank, operation_of_text hblank]; rfl

theorem run_program_snd (c : ListingCall) (s : σ) :
    (c.program.run handle s).2 = (handle c.operation s).2 := by
  cases c with
  | findAll | statistics => rfl
  | search text =>
    show ((Registry.search text).run handle s).2 = _
    cases hblank : Text.blank text with
    | true => rw [search_of_blank hblank, operation_of_blank hblank]; rfl
    | false => rw [search_of_text hblank, operation_of_text hblank]; rfl

theorem run_program_of_error {c : ListingCall} {s : σ} {e : RegistryError}
    (h : (handle c.operation s).1 = .error e) : (c.program.run handle s).1 = c.nothing := by
  cases c with
  | findAll =>
    show orNone (handle .findAll s).1 = []
    rw [show (handle .findAll s).1 = _ from h]
    rfl
  | statistics =>
    show Tally.ofStations (orNone (handle .findAll s).1) = _
    rw [show (handle .findAll s).1 = _ from h]
    rfl
  | search text =>
    show ((Registry.search text).run handle s).1 = []
    cases hblank : Text.blank text with
    | true =>
      rw [operation_of_blank hblank] at h
      rw [search_of_blank hblank, Registry.findAll, Program.run_call, h]
      rfl
    | false =>
      rw [operation_of_text hblank] at h
      rw [search_of_text hblank, Program.run_call, h]
      rfl

end ListingCall

end ChargingRegister.Registry
