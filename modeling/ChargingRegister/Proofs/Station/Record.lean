import ChargingRegister.Proofs.Calendar.Written
import ChargingRegister.Proofs.Json.Reading
import ChargingRegister.Station.Record

/-!
# Exchanged records are read back

Every record of a station is written without loss as far as JSON goes. It is read back as the same
station when its number fits a signed word and its time stamp lies in the years of four digits.
-/
namespace ChargingRegister

namespace Json

theorem Exact.ofOption : ∀ text : Option String, Exact (.ofOption text)
  | some s => .string s
  | none => .null

theorem Exact.record {members : List (String × Json)} (h : ∀ m ∈ members, Exact m.2) :
    Exact (.record members) := by
  refine .object (fun m hm => ?_) fun m hm => ?_ <;> obtain ⟨n, hn, rfl⟩ := List.mem_map.mp hm
  · rfl
  · exact h n hn

theorem Exact.entry {key : String} {v : Json} {members : List (String × Json)} (hv : Exact v)
    (h : Exact (.record members)) : Exact (.record ((key, v) :: members)) := by
  cases h with
  | object hkeys h =>
    refine .object ?_ ?_
    · exact List.forall_mem_cons.mpr ⟨rfl, hkeys⟩
    · exact List.forall_mem_cons.mpr ⟨hv, h⟩

theorem Exact.noEntry : Exact (.record []) :=
  .record (List.forall_mem_nil _)

theorem Exact.list {α : Type} {f : α → Json} {xs : List α} (h : ∀ x ∈ xs, Exact (f x)) :
    Exact (.array (xs.map f)) := by
  refine .array fun v hv => ?_
  obtain ⟨x, hx, rfl⟩ := List.mem_map.mp hv
  exact h x hx

theorem members?_record (members : List (String × Json)) :
    (record members).members? = some (members.map fun m => (some m.1, m.2)) := by
  simp [record, members?]

theorem field?_record {members : List (String × Json)} (hkeys : (members.map (·.1)).Nodup)
    {key : String} {v : Json} (h : (key, v) ∈ members) :
    field? key (members.map fun m => (some m.1, m.2)) = some v := by
  have hfound : members.filter (fun m => some m.1 == some key) = [(key, v)] := by
    induction members with
    | nil => cases h
    | cons m ms ih =>
      obtain ⟨hfirst, hkeys⟩ := List.nodup_cons.mp hkeys
      rcases List.mem_cons.mp h with rfl | h
      · have hrest : ms.filter (fun m => some m.1 == some key) = [] := by
          rw [List.filter_eq_nil_iff]
          intro n hn hkey
          exact hfirst (List.mem_map.mpr ⟨n, hn, Option.some.inj (eq_of_beq hkey)⟩)
        rw [List.filter_cons, if_pos (beq_self_eq_true _), hrest]
      · have hother : ¬((some m.1 == some key) = true) := fun hkey =>
          hfirst (List.mem_map.mpr ⟨(key, v), h, (Option.some.inj (eq_of_beq hkey)).symm⟩)
        rw [List.filter_cons, if_neg hother, ih hkeys h]
  rw [field?, List.filter_map]
  simp only [Function.comp_def, hfound, List.map_cons, List.map_nil]

/-- No number is written as minus zero. -/
theorem signedWord?_ofInt {n : Int} (h : Decimal.FitsWord n) : (ofInt n).signedWord? = some n := by
  have hzero : (Decimal.ofInt n).toList ≠ ['-', '0'] := by
    intro htext
    rcases Int.lt_or_le n 0 with hneg | hpos
    · have hhead := Decimal.head?_toDigits_ne (n := n.natAbs) (by omega)
      rw [Decimal.toList_ofInt_of_neg hneg] at htext
      rw [(List.cons.inj htext).2] at hhead
      exact hhead rfl
    · have hdigit := Decimal.isDigit_of_mem_toDigits (n := n.toNat) (c := '-')
      rw [← Decimal.toList_ofInt_of_nonneg hpos, htext] at hdigit
      exact absurd (hdigit List.mem_cons_self) (by decide)
  rw [ofInt, signedWord?]
  split
  case h_1 htext => exact absurd htext hzero
  case h_2 => exact Decimal.signedWord?_ofInt h

theorem orNull_ofOption {α : Type} {read : Json → Option α} {text : Option String}
    {value : Option α} (hnone : text = none → value = none)
    (hsome : ∀ s, text = some s → ∃ a, value = some a ∧ read (.string s) = some a) :
    (ofOption text).orNull read = some value := by
  cases text with
  | none =>
    rw [hnone rfl]
    rfl
  | some s =>
    obtain ⟨a, rfl, hread⟩ := hsome s rfl
    show (read (.string s)).map some = _
    rw [hread]
    rfl

end Json

namespace Station

theorem exact_toJson (s : Station) : s.toJson.Exact :=
  .entry (.number _) <| .entry (.ofOption _) <| .entry (.ofOption _) <| .entry (.string _) <|
    .entry (.string _) .noEntry

/-- What the exchange form holds: a number of 64 bits, and a time stamp, if any, of the years 0
to 9999. -/
def Exchangeable (s : Station) : Prop :=
  Decimal.FitsWord s.id ∧ ∀ i ∈ s.lastUpdated, 0 ≤ i.date.year ∧ i.date.year ≤ 9999

instance : DecidablePred Exchangeable :=
  fun _ => inferInstanceAs (Decidable (_ ∧ _))

theorem instant?_string (text : String) : instant? (.string text) = Instant.ofText? text := rfl

/-- A record with the five keys is read field by field, in whatever order they stand. -/
theorem ofJson?_record {members : List (String × Json)} (hkeys : (members.map (·.1)).Nodup)
    {id name location status lastUpdated : Json} (hid : ("id", id) ∈ members)
    (hname : ("name", name) ∈ members) (hlocation : ("location", location) ∈ members)
    (hstatus : ("status", status) ∈ members) (hupdated : ("last_updated", lastUpdated) ∈ members) :
    ofJson? (.record members) = ofFields? id name location status lastUpdated := by
  show ((Json.record members).members?.bind fun members => _) = _
  simp only [Json.members?_record, Json.field?_record hkeys hid, Json.field?_record hkeys hname,
    Json.field?_record hkeys hlocation, Json.field?_record hkeys hstatus,
    Json.field?_record hkeys hupdated, Option.bind_eq_bind, Option.bind_some]

theorem ofJson?_toJson {s : Station} (h : s.Exchangeable) : ofJson? s.toJson = some s := by
  have hlocation : (Json.ofOption s.location).orNull Json.text? = some s.location :=
    Json.orNull_ofOption (fun hnone => hnone) fun l hl => ⟨l, hl, rfl⟩
  have hupdated : (Json.ofOption (s.lastUpdated.map Instant.written)).orNull instant? =
      some s.lastUpdated := by
    refine Json.orNull_ofOption Option.map_eq_none_iff.mp fun text htext => ?_
    obtain ⟨i, hi, rfl⟩ := Option.map_eq_some_iff.mp htext
    exact ⟨i, hi, (instant?_string _).trans (Instant.ofText?_written (h.2 i hi))⟩
  have hread : ofJson? s.toJson = ofFields? (.ofInt s.id) (.string s.name) (.ofOption s.location)
      (.string s.status.name) (.ofOption (s.lastUpdated.map Instant.written)) := by
    refine ofJson?_record ?keys ?_ ?_ ?_ ?_ ?_
    case keys =>
      show ["id", "last_updated", "location", "name", "status"].Nodup
      decide
    all_goals simp
  rw [hread]
  simp only [ofFields?, Json.signedWord?_ofInt h.1, hlocation, hupdated, Json.text?, status?,
    Status.ofName?_name, Option.pure_def, Option.bind_eq_bind, Option.bind_some]

end Station

end ChargingRegister
