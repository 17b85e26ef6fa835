import ChargingRegister.Toml.Reader
import Mathlib.Data.List.Nodup

/-!
# Documents without repeated keys

No table that is read holds two entries under one key, at any depth. Every way to add an entry
keeps it so: a key is put in place of itself, or behind keys that differ from it. Hence an entry
of a document is found under its key wherever it stands.
-/
namespace ChargingRegister.Toml

/-- No table in the value has a key twice. -/
inductive Value.Distinct : Value → Prop
  | string (text : String) : Distinct (.string text)
  | integer (n : Int) : Distinct (.integer n)
  | float : Distinct .float
  | boolean (b : Bool) : Distinct (.boolean b)
  | datetime : Distinct .datetime
  | array {items : List Value} (h : ∀ v ∈ items, v.Distinct) : Distinct (.array items)
  | table {entries : List (String × Value)} (hkeys : (entries.map Prod.fst).Nodup)
    (h : ∀ e ∈ entries, e.2.Distinct) : Distinct (.table entries)

structure Document.Distinct (d : Document) : Prop where
  keys : (d.map Prod.fst).Nodup
  values : ∀ e ∈ d, e.2.Distinct

inductive Node.Distinct : Node → Prop
  | value {v : Value} (h : v.Distinct) : Distinct (.value v)
  | table {origin : Origin} {entries : Entries} (hkeys : (entries.map Prod.fst).Nodup)
    (h : ∀ e ∈ entries, e.2.Distinct) : Distinct (.table origin entries)
  | tables {last : Entries} {earlier : List Entries}
    (hkeys : ∀ t ∈ last :: earlier, (t.map Prod.fst).Nodup)
    (h : ∀ t ∈ last :: earlier, ∀ e ∈ t, e.2.Distinct) : Distinct (.tables last earlier)

structure Entries.Distinct (entries : Entries) : Prop where
  keys : (entries.map Prod.fst).Nodup
  nodes : ∀ e ∈ entries, e.2.Distinct

theorem toDocument_eq_map (entries : Entries) :
    toDocument entries = entries.map fun e => (e.1, e.2.toValue) := by
  induction entries with
  | nil => rfl
  | cons e entries ih => rw [toDocument, ih, List.map_cons]

theorem toTables_eq (earlier : List Entries) (done : List Value) :
    toTables earlier done = (earlier.map fun t => .table (toDocument t)).reverse ++ done := by
  induction earlier generalizing done with
  | nil => rfl
  | cons t earlier ih => rw [toTables, ih, List.map_cons, List.reverse_cons, List.append_assoc]; rfl

theorem keys_toDocument (entries : Entries) :
    (toDocument entries).map Prod.fst = entries.map Prod.fst := by
  rw [toDocument_eq_map, List.map_map]
  rfl

theorem Node.Distinct.toValue {n : Node} (h : n.Distinct) : n.toValue.Distinct := by
  -- A table and each one in an array of tables turn into values in the same way.
  have htable : ∀ entries : Entries, (entries.map Prod.fst).Nodup →
      (∀ e ∈ entries, e.2.toValue.Distinct) → Value.Distinct (.table (toDocument entries)) := by
    intro entries hkeys hvalues
    refine .table (by rwa [keys_toDocument]) ?_
    rw [toDocument_eq_map, List.forall_mem_map]
    exact hvalues
  induction h with
  | value h => rwa [Node.toValue]
  | table hkeys _ ih =>
    rw [Node.toValue]
    exact htable _ hkeys ih
  | tables hkeys _ ih =>
    rw [Node.toValue, toTables_eq]
    refine .array fun v hv => ?_
    rcases List.mem_append.mp hv with hv | hv
    · obtain ⟨t, ht, rfl⟩ := List.mem_map.mp (List.mem_reverse.mp hv)
      exact htable t (hkeys t (.tail _ ht)) (ih t (.tail _ ht))
    · rw [List.mem_singleton.mp hv]
      exact htable _ (hkeys _ List.mem_cons_self) (ih _ List.mem_cons_self)

namespace Entries.Distinct

theorem nil : Entries.Distinct [] :=
  ⟨List.nodup_nil, fun _ h => absurd h List.not_mem_nil⟩

theorem toDocument {entries : Entries} (h : entries.Distinct) :
    Document.Distinct (Toml.toDocument entries) where
  keys := by rw [keys_toDocument]; exact h.keys
  values := by
    rw [toDocument_eq_map, List.forall_mem_map]
    exact fun e he => (h.nodes e he).toValue

theorem node {entries : Entries} (h : entries.Distinct) (origin : Origin) :
    (Node.table origin entries).Distinct :=
  .table h.keys h.nodes

theorem concat {entries : Entries} (h : entries.Distinct) {key : String} {n : Node}
    (hn : n.Distinct) (hkey : key ∉ entries.map Prod.fst) : (entries ++ [(key, n)]).Distinct where
  keys := by
    rw [List.map_append, List.map_singleton, ← List.concat_eq_append]
    exact h.keys.concat hkey
  nodes e he := by
    rcases List.mem_append.mp he with he | he
    · exact h.nodes e he
    · rw [List.mem_singleton.mp he]
      exact hn

end Entries.Distinct

section

variable {key : String} {f : Option Node → Option Node} {entries out : Entries}

/-- The keys stay as they are, or the new one comes last. -/
theorem keys_upsert (h : upsert key f entries = some out) :
    out.map Prod.fst = entries.map Prod.fst ∨
      (key ∉ entries.map Prod.fst ∧ out.map Prod.fst = entries.map Prod.fst ++ [key]) := by
  induction entries generalizing out with
  | nil =>
    obtain ⟨n, -, rfl⟩ := Option.map_eq_some_iff.mp h
    exact .inr ⟨List.not_mem_nil, rfl⟩
  | cons e rest ih =>
    rw [upsert] at h
    split at h
    case isTrue =>
      obtain ⟨n, -, rfl⟩ := Option.map_eq_some_iff.mp h
      exact .inl rfl
    case isFalse hne =>
      obtain ⟨out', hrest, rfl⟩ := Option.map_eq_some_iff.mp h
      rcases ih hrest with heq | ⟨hnew, heq⟩
      · exact .inl (by rw [List.map_cons, List.map_cons, heq])
      · refine .inr ⟨?_, by rw [List.map_cons, List.map_cons, heq, List.cons_append]⟩
        rw [List.map_cons, List.mem_cons, not_or]
        exact ⟨fun hkey => hne hkey.symm, hnew⟩

theorem mem_upsert (h : upsert key f entries = some out) {e : String × Node} (he : e ∈ out) :
    e ∈ entries ∨ ∃ n?, (∀ n ∈ n?, (key, n) ∈ entries) ∧ f n? = some e.2 := by
  induction entries generalizing out with
  | nil =>
    obtain ⟨n, hn, rfl⟩ := Option.map_eq_some_iff.mp h
    rw [List.mem_singleton.mp he]
    exact .inr ⟨none, by simp, hn⟩
  | cons e' rest ih =>
    obtain ⟨k, n⟩ := e'
    rw [upsert] at h
    split at h
    case isTrue hk =>
      obtain ⟨m, hm, rfl⟩ := Option.map_eq_some_iff.mp h
      rcases List.mem_cons.mp he with rfl | he
      · refine .inr ⟨some n, fun x hx => ?_, hm⟩
        rw [← Option.some.inj hx, hk]
        exact List.mem_cons_self
      · exact .inl (.tail _ he)
    case isFalse =>
      obtain ⟨out', hrest, rfl⟩ := Option.map_eq_some_iff.mp h
      rcases List.mem_cons.mp he with rfl | he
      · exact .inl List.mem_cons_self
      · rcases ih hrest he with hmem | ⟨n?, hn?, hf⟩
        · exact .inl (.tail _ hmem)
        · exact .inr ⟨n?, fun x hx => .tail _ (hn? x hx), hf⟩

theorem Entries.Distinct.upsert (hd : entries.Distinct)
    (hf : ∀ n? m, (∀ n ∈ n?, n.Distinct) → f n? = some m → m.Distinct)
    (h : upsert key f entries = some out) : out.Distinct where
  keys := by
    rcases keys_upsert h with heq | ⟨hnew, heq⟩
    · rw [heq]
      exact hd.keys
    · rw [heq, ← List.concat_eq_append]
      exact hd.keys.concat hnew
  nodes e he := by
    rcases mem_upsert h he with hmem | ⟨n?, hn?, hm⟩
    · exact hd.nodes e hmem
    · exact hf n? e.2 (fun n hn => hd.nodes _ (hn? n hn)) hm

end

theorem Entries.Distinct.descend {made : Origin} {f : Origin → Entries → Option Entries}
    (hf : ∀ origin entries out, entries.Distinct → f origin entries = some out → out.Distinct)
    {path : List String} {origin : Origin} {entries out : Entries} (hd : entries.Distinct)
    (h : descend made f path origin entries = some out) : out.Distinct := by
  induction path generalizing origin entries out with
  | nil => exact hf _ _ _ hd h
  | cons key path ih =>
    rw [Toml.descend] at h
    refine hd.upsert (fun n? m hn? hm => ?_) h
    -- the key is missing, or it holds a value, a table or an array of tables
    split at hm
    · obtain ⟨inner, hinner, rfl⟩ := Option.map_eq_some_iff.mp hm
      exact (ih .nil hinner).node _
    · cases hm
    · next origin inner =>
      split at hm
      · cases hm
      · obtain ⟨inner', hinner, rfl⟩ := Option.map_eq_some_iff.mp hm
        cases hn? _ rfl with
        | table hkeys hnodes => exact (ih ⟨hkeys, hnodes⟩ hinner).node _
    · next last earlier =>
      obtain ⟨last', hlast, rfl⟩ := Option.map_eq_some_iff.mp hm
      cases hn? _ rfl with
      | tables hkeys hnodes =>
        have hdone := ih ⟨hkeys _ List.mem_cons_self, hnodes _ List.mem_cons_self⟩ hlast
        refine .tables (List.forall_mem_cons.mpr ⟨hdone.keys, ?_⟩)
          (List.forall_mem_cons.mpr ⟨hdone.nodes, ?_⟩)
        · exact (List.forall_mem_cons.mp hkeys).2
        · exact (List.forall_mem_cons.mp hnodes).2

section

variable {path : List String} {key : String} {v : Value} {origin : Origin}
  {entries out : Entries}

theorem Entries.Distinct.addNew {n : Node} (hd : entries.Distinct) (hn : n.Distinct)
    (h : addNew key n entries = some out) : out.Distinct := by
  rw [Toml.addNew] at h
  split at h
  case isTrue => cases h
  case isFalse hnew =>
    cases h
    refine hd.concat hn fun hmem => hnew ?_
    obtain ⟨e, he, rfl⟩ := List.mem_map.mp hmem
    exact List.any_eq_true.mpr ⟨e, he, beq_self_eq_true _⟩

theorem Entries.Distinct.assign (hd : entries.Distinct) (hv : v.Distinct)
    (h : assign path key v origin entries = some out) : out.Distinct := by
  refine hd.descend (fun reached entries out hd h => ?_) h
  split at h
  · exact hd.addNew (.value hv) h
  · cases h

theorem Entries.Distinct.openTable (hd : entries.Distinct)
    (h : openTable path key entries = some out) : out.Distinct := by
  refine hd.descend (fun _ entries out hd h => hd.upsert (fun n? m hn? hm => ?_) h) h
  split at hm
  · cases hm
    exact Entries.Distinct.nil.node _
  · cases hm
    cases hn? _ rfl with
    | table hkeys hnodes => exact .table hkeys hnodes
  · cases hm

theorem Entries.Distinct.openElement (hd : entries.Distinct)
    (h : openElement path key entries = some out) : out.Distinct := by
  refine hd.descend (fun _ entries out hd h => hd.upsert (fun n? m hn? hm => ?_) h) h
  split at hm
  · cases hm
    refine .tables ?_ ?_ <;> simp
  · cases hm
    cases hn? _ rfl with
    | tables hkeys hnodes =>
      exact .tables (List.forall_mem_cons.mpr ⟨List.nodup_nil, hkeys⟩)
        (List.forall_mem_cons.mpr ⟨fun _ h => absurd h List.not_mem_nil, hnodes⟩)
  · cases hm

theorem Entries.Distinct.assignIn {current : List String} (hd : entries.Distinct)
    (hv : v.Distinct) (h : assignIn current path key v entries = some out) : out.Distinct :=
  hd.descend (fun _ _ _ hd h => hd.assign hv h) h

end

theorem datetime?_distinct {cs rest : List Char} {v : Value} (h : datetime? cs = some (v, rest)) :
    v.Distinct := by
  unfold datetime? at h
  split at h
  · cases h
    exact .datetime
  · obtain ⟨_, -, heq⟩ := Option.map_eq_some_iff.mp h
    cases heq
    exact .datetime

theorem word?_distinct {n : Int} {v : Value} (h : word? n = some v) : v.Distinct := by
  unfold word? at h
  split at h
  · cases h
    exact .integer n
  · cases h

theorem based?_distinct {base : Nat} {isDigit : Char → Bool} {cs rest : List Char} {v : Value}
    (h : based? base isDigit cs = some (v, rest)) : v.Distinct := by
  unfold based? at h
  split at h
  · obtain ⟨w, hw, heq⟩ := Option.map_eq_some_iff.mp h
    cases heq
    exact word?_distinct hw
  · cases h

theorem integer?_distinct {cs rest : List Char} {v : Value} (h : integer? cs = some (v, rest)) :
    v.Distinct := by
  unfold integer? at h
  split at h
  · exact based?_distinct h
  · exact based?_distinct h
  · exact based?_distinct h
  · dsimp only at h
    split at h
    · obtain ⟨w, hw, heq⟩ := Option.map_eq_some_iff.mp h
      cases heq
      exact word?_distinct hw
    · cases h

theorem float?_distinct {cs rest : List Char} {v : Value} (h : float? cs = some (v, rest)) :
    v.Distinct := by
  have hfloat : v = .float := by
    unfold float? at h
    repeat' split at h
    all_goals cases h <;> rfl
  rw [hfloat]
  exact .float

theorem number?_distinct {cs rest : List Char} {v : Value} (h : number? cs = some (v, rest)) :
    v.Distinct := by
  simp only [number?, Option.orElse_eq_orElse, Option.orElse_eq_or, Option.or_eq_some_iff] at h
  rcases h with h | ⟨-, h | ⟨-, h⟩⟩
  · exact datetime?_distinct h
  · exact float?_distinct h
  · exact integer?_distinct h

/-- Along the whole of a value: what is read has distinct keys, and so does what has been read of
an array or of an inline table before. -/
theorem reading_distinct (fuel : Nat) :
    (∀ depth cs v rest, value? fuel depth cs = some (v, rest) → v.Distinct) ∧
      (∀ depth done cs v rest, (∀ w ∈ done, w.Distinct) →
        items? fuel depth done cs = some (v, rest) → v.Distinct) ∧
      ∀ depth done cs v rest, Entries.Distinct done →
        members? fuel depth done cs = some (v, rest) → v.Distinct := by
  -- The three readers call each other with one unit less, so one induction serves them all.
  induction fuel with
  | zero => simp [value?, items?, members?]
  | succ fuel ih =>
    obtain ⟨ihvalue, ihitems, ihmembers⟩ := ih
    refine ⟨fun depth cs v rest h => ?_, fun depth done cs v rest hdone h => ?_,
      fun depth done cs v rest hdone h => ?_⟩
    · unfold value? at h
      split at h
      case h_1 => cases h
      case h_2 c cs =>
        split at h
        · obtain ⟨r, -, heq⟩ := Option.map_eq_some_iff.mp h
          cases heq
          exact .string _
        split at h
        · split at h
          · exact ihitems _ _ _ _ _ (fun _ h => absurd h List.not_mem_nil) h
          · cases h
        split at h
        · split at h
          · split at h
            · cases h
              exact .table List.nodup_nil fun _ h => absurd h List.not_mem_nil
            · exact ihmembers _ _ _ _ _ .nil h
          · cases h
        split at h
        · split at h <;> cases h
          exact .boolean true
        split at h
        · split at h <;> cases h
          exact .boolean false
        · exact number?_distinct h
    · rw [items?] at h
      split at h
      · cases h
        exact .array fun w hw => hdone w (List.mem_reverse.mp hw)
      · split at h
        · cases h
        · next w cs' hw =>
          have hnext : ∀ x ∈ w :: done, x.Distinct :=
            List.forall_mem_cons.mpr ⟨ihvalue _ _ _ _ hw, hdone⟩
          split at h
          · exact ihitems _ _ _ _ _ hnext h
          · cases h
            exact .array fun x hx => hnext x (List.mem_reverse.mp hx)
          · cases h
    · rw [members?] at h
      split at h
      · split at h
        · cases h
        · next w cs' hw =>
          split at h
          · cases h
          · next done' hassign =>
            have hdone' := hdone.assign (ihvalue _ _ _ _ hw) hassign
            split at h
            · exact ihmembers _ _ _ _ _ hdone' h
            · cases h
              exact .table hdone'.toDocument.keys hdone'.toDocument.values
            · cases h
      · cases h

theorem header?_distinct {d out : Draft} {cs rest : List Char} (hd : d.root.Distinct)
    (h : header? d cs = some (out, rest)) : out.root.Distinct := by
  unfold header? at h
  split at h
  · split at h
    · obtain ⟨root, hroot, heq⟩ := Option.map_eq_some_iff.mp h
      cases heq
      exact hd.openElement hroot
    · cases h
  · split at h
    · obtain ⟨root, hroot, heq⟩ := Option.map_eq_some_iff.mp h
      cases heq
      exact hd.openTable hroot
    · cases h

theorem assignment?_distinct {d out : Draft} {fuel : Nat} {cs rest : List Char}
    (hd : d.root.Distinct) (h : assignment? d fuel cs = some (out, rest)) :
    out.root.Distinct := by
  unfold assignment? at h
  split at h
  · split at h
    · next v _ hv =>
      obtain ⟨root, hroot, heq⟩ := Option.map_eq_some_iff.mp h
      cases heq
      exact hd.assignIn ((reading_distinct fuel).1 _ _ _ _ hv) hroot
    · cases h
  · cases h

theorem lines?_distinct {fuel : Nat} {d out : Draft} {cs : List Char} (hd : d.root.Distinct)
    (h : lines? fuel d cs = some out) : out.root.Distinct := by
  induction fuel generalizing d cs with
  | zero => cases h
  | succ fuel ih =>
    rw [lines?] at h
    -- the end, a header, a line without an entry, or an assignment
    split at h
    · cases h
      exact hd
    · split at h
      · next d' rest hheader =>
        split at h
        · exact ih (header?_distinct hd hheader) h
        · cases h
      · cases h
    · split at h
      · split at h
        · exact ih hd h
        · cases h
      · split at h
        · next d' rest hassign =>
          split at h
          · exact ih (assignment?_distinct hd hassign) h
          · cases h
        · cases h

theorem Document.distinct_of_ofText? {text : String} {d : Document}
    (h : Document.ofText? text = some d) : d.Distinct := by
  obtain ⟨out, hout, rfl⟩ := Option.map_eq_some_iff.mp h
  exact (lines?_distinct .nil hout).toDocument

theorem lookup_eq_some_iff_mem {α : Type} {entries : List (String × α)}
    (hkeys : (entries.map Prod.fst).Nodup) {key : String} {v : α} :
    entries.lookup key = some v ↔ (key, v) ∈ entries := by
  induction entries with
  | nil => simp
  | cons e entries ih =>
    obtain ⟨k, w⟩ := e
    obtain ⟨hk, hrest⟩ := List.nodup_cons.mp hkeys
    rw [List.lookup_cons, List.mem_cons, Prod.mk.injEq]
    by_cases h : key = k
    · have hother : (key, v) ∉ entries := fun hmem => hk (List.mem_map.mpr ⟨_, hmem, h⟩)
      rw [h, beq_self_eq_true]
      simp only [true_and, Option.some.injEq]
      rw [← h]
      exact ⟨fun hv => .inl hv.symm, fun hv => hv.elim Eq.symm fun hm => absurd hm hother⟩
    · rw [beq_false_of_ne h]
      simp only [h, false_and, false_or]
      exact ih hrest

end ChargingRegister.Toml
