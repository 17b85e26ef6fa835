import ChargingRegister.Console.Outcome
import ChargingRegister.Proofs.Toml.Distinct

/-!
# Configurations as defaults with settings on top

A configuration has six settings, each known by a section and a key. A document whose sections are
tables gives some of them and leaves the others at their defaults, or is refused as a whole when a
setting is given as anything but a text. What a document gives is a matter of which entries it
holds, and neither of their order nor of any other entry.
-/
namespace ChargingRegister

namespace Toml.Value

def isTable : Value → Bool
  | .table _ => true
  | _ => false

def text? : Value → Option String
  | .string s => some s
  | _ => none

theorem text?_isSome_iff {v : Value} : v.text?.isSome = true ↔ ∃ s, v = .string s := by
  cases v <;> simp [text?]

end Toml.Value

namespace Config

inductive Setting where
  | path
  | url
  | level
  | format
  | username
  | password
  deriving DecidableEq, Repr

def sectionNames : List String :=
  ["database", "logging", "admin"]

namespace Setting

def sectionName : Setting → String
  | .path | .url => "database"
  | .level | .format => "logging"
  | .username | .password => "admin"

def key : Setting → String
  | .path => "path"
  | .url => "url"
  | .level => "level"
  | .format => "format"
  | .username => "username"
  | .password => "password"

/-- What a configuration has for the setting. Only the address can be missing. -/
def get (c : Config) : Setting → Option String
  | .path => some c.database.path
  | .url => c.database.url
  | .level => some c.logging.level
  | .format => some c.logging.format
  | .username => some c.admin.username
  | .password => some c.admin.password

theorem sectionName_mem (x : Setting) : x.sectionName ∈ sectionNames := by
  cases x <;> decide

def position : Setting → Nat
  | .path | .level | .username => 0
  | .url | .format | .password => 1

end Setting

def Sectioned (d : Toml.Document) : Prop :=
  ∀ e ∈ d, e.1 ∈ sectionNames → e.2.isTable = true

instance (d : Toml.Document) : Decidable (Sectioned d) :=
  inferInstanceAs (Decidable (∀ e ∈ d, e.1 ∈ sectionNames → e.2.isTable = true))

/-- The document has the value under the key of the setting, in the setting's section. -/
def Gives (d : Toml.Document) (x : Setting) (v : Toml.Value) : Prop :=
  ∃ entries, (x.sectionName, .table entries) ∈ d ∧ (x.key, v) ∈ entries

/-- What a document says about a setting: nothing, a text, or something that is refused. -/
def setting? (d : Toml.Document) (x : Setting) : Option (Option String) :=
  field? (d.lookup x.sectionName) x.key x.position

section

variable {d : Toml.Document} (hd : d.Distinct) (hsections : Sectioned d) {x : Setting}

include hd

theorem Gives.unique {v w : Toml.Value} (hv : Gives d x v) (hw : Gives d x w) : v = w := by
  obtain ⟨entries, hentries, hv⟩ := hv
  obtain ⟨entries', hentries', hw⟩ := hw
  have hsame := ((Toml.lookup_eq_some_iff_mem hd.keys).mpr hentries).symm.trans
    ((Toml.lookup_eq_some_iff_mem hd.keys).mpr hentries')
  cases hsame
  cases hd.values _ hentries with
  | table hkeys _ =>
    exact Option.some.inj (((Toml.lookup_eq_some_iff_mem hkeys).mpr hv).symm.trans
      ((Toml.lookup_eq_some_iff_mem hkeys).mpr hw))

theorem setting?_of_gives {v : Toml.Value} (hv : Gives d x v) :
    setting? d x = v.text?.map some := by
  obtain ⟨entries, hentries, hv⟩ := hv
  have hlookup := (Toml.lookup_eq_some_iff_mem hd.keys).mpr hentries
  cases hd.values _ hentries with
  | table hkeys _ =>
    unfold setting? field?
    rw [hlookup]
    dsimp only
    rw [(Toml.lookup_eq_some_iff_mem hkeys).mpr hv]
    cases v <;> rfl

include hsections

theorem setting?_of_not_gives (h : ∀ v, ¬ Gives d x v) : setting? d x = some none := by
  cases hsection : d.lookup x.sectionName with
  | none =>
    unfold setting? field?
    rw [hsection]
  | some v =>
    have hmem := (Toml.lookup_eq_some_iff_mem hd.keys).mp hsection
    have htable := hsections _ hmem x.sectionName_mem
    cases v with
    | table entries =>
      have hnone : entries.lookup x.key = none := by
        cases hentry : entries.lookup x.key with
        | none => rfl
        | some v =>
          cases hd.values _ hmem with
          | table hkeys _ =>
            exact absurd ⟨entries, hmem, (Toml.lookup_eq_some_iff_mem hkeys).mp hentry⟩ (h v)
      unfold setting? field?
      rw [hsection]
      dsimp only
      rw [hnone]
    | _ => cases htable

theorem setting?_isSome_iff :
    (setting? d x).isSome = true ↔ ∀ v, Gives d x v → ∃ s, v = .string s := by
  by_cases hgiven : ∃ v, Gives d x v
  · obtain ⟨v, hv⟩ := hgiven
    have hall : (∀ w, Gives d x w → ∃ s, w = .string s) ↔ ∃ s, v = .string s :=
      ⟨fun h => h v hv, fun h w hw => Gives.unique hd hv hw ▸ h⟩
    rw [setting?_of_gives hd hv, Option.isSome_map, hall, Toml.Value.text?_isSome_iff]
  · rw [not_exists] at hgiven
    rw [setting?_of_not_gives hd hsections hgiven]
    exact iff_of_true rfl fun v hv => absurd hv (hgiven v)

end

/-- The defaults, with the texts that are given on top. -/
def overlay (given : Setting → Option String) : Config where
  database := ⟨(given .path).getD default.database.path, given .url⟩
  logging := ⟨(given .level).getD default.logging.level,
    (given .format).getD default.logging.format⟩
  admin := ⟨(given .username).getD default.admin.username,
    (given .password).getD default.admin.password⟩

theorem get_overlay (given : Setting → Option String) (x : Setting) :
    x.get (overlay given) = (given x).or (x.get default) := by
  have htext : ∀ (o : Option String) (s : String), some (o.getD s) = o.or (some s) := by
    intro o s
    cases o <;> rfl
  cases x with
  | url => exact (Option.or_none).symm
  | _ => exact htext _ _

theorem ofDocument?_eq_some_iff {d : Toml.Document} {c : Config} :
    ofDocument? d = some c ↔
      ∃ given : Setting → Option String, (∀ x, setting? d x = some (given x)) ∧
        overlay given = c := by
  constructor
  · intro h
    simp only [ofDocument?, Option.bind_eq_bind, Option.bind_eq_some_iff] at h
    obtain ⟨path, hpath, url, hurl, level, hlevel, format, hformat, username, husername, password,
      hpassword, hc⟩ := h
    refine ⟨fun
      | .path => path
      | .url => url
      | .level => level
      | .format => format
      | .username => username
      | .password => password, fun x => ?_, Option.some.inj hc⟩
    cases x with
    | path => exact hpath
    | url => exact hurl
    | level => exact hlevel
    | format => exact hformat
    | username => exact husername
    | password => exact hpassword
  · rintro ⟨given, h, rfl⟩
    have hpath : field? (d.lookup "database") "path" 0 = some (given .path) := h .path
    have hurl : field? (d.lookup "database") "url" 1 = some (given .url) := h .url
    have hlevel : field? (d.lookup "logging") "level" 0 = some (given .level) := h .level
    have hformat : field? (d.lookup "logging") "format" 1 = some (given .format) := h .format
    have husername : field? (d.lookup "admin") "username" 0 = some (given .username) := h .username
    have hpassword : field? (d.lookup "admin") "password" 1 = some (given .password) := h .password
    rw [ofDocument?, hpath, hurl, hlevel, hformat, husername, hpassword]
    rfl

theorem isSome_ofDocument?_iff {d : Toml.Document} :
    (ofDocument? d).isSome = true ↔ ∀ x, (setting? d x).isSome = true := by
  refine ⟨fun h x => ?_, fun h => ?_⟩
  · obtain ⟨c, hc⟩ := Option.isSome_iff_exists.mp h
    obtain ⟨given, hgiven, -⟩ := ofDocument?_eq_some_iff.mp hc
    exact Option.isSome_of_eq_some (hgiven x)
  · have hgiven : ∀ x, setting? d x = some ((setting? d x).get (h x)) := fun x => by simp
    exact Option.isSome_of_eq_some (ofDocument?_eq_some_iff.mpr ⟨_, hgiven, rfl⟩)

theorem get_of_ofDocument? {d : Toml.Document} {c : Config} (h : ofDocument? d = some c)
    {x : Setting} {o : Option String} (hx : setting? d x = some o) :
    x.get c = o.or (x.get default) := by
  obtain ⟨given, hgiven, rfl⟩ := ofDocument?_eq_some_iff.mp h
  rw [get_overlay, Option.some.inj ((hgiven x).symm.trans hx)]

theorem ofDocument?_congr {d d' : Toml.Document} (h : ∀ x, setting? d x = setting? d' x) :
    ofDocument? d = ofDocument? d' := by
  refine Option.ext fun c => ?_
  rw [ofDocument?_eq_some_iff, ofDocument?_eq_some_iff]
  simp only [h]

theorem ofText?_eq_ofDocument? {text : String} {d : Toml.Document}
    (hd : Toml.Document.ofText? text = some d) : ofText? text = ofDocument? d := by
  rw [ofText?, hd]
  rfl

theorem load_of_ofText? {text : String} (h : ofText? text = none) :
    load (.bytes text.toUTF8) = .error .parse := by
  have hbytes : String.fromUTF8? text.toUTF8 = some text := dif_pos text.isValidUTF8
  rw [load, hbytes]
  dsimp only
  rw [h]

/-- Both the check and a run look at the section of the database for its address alone. -/
theorem console_of_connectionUrl {c c' : Config} (hlogging : c.logging = c'.logging)
    (hadmin : c.admin = c'.admin)
    (hurl : c.database.connectionUrl = c'.database.connectionUrl) :
    (∀ file, Console.checkLines file c = Console.checkLines file c') ∧
      ∀ (inv : Console.Invocation) supply v, inv.run supply c v = inv.run supply c' v := by
  refine ⟨fun file => ?_, fun inv supply v => ?_⟩
  · rw [Console.checkLines, Console.checkLines, hlogging, hadmin, hurl]
  · rw [Console.Invocation.run, Console.Invocation.run, hadmin, hurl]

/-- A document whose sections are tables makes a configuration just when every setting that it
gives is a text. Each setting is then the text that is given, or its default where none is; the
address is the one given or that of the database file, and the console does the same as if it had
been given outright. Documents that give the same make the same configuration, whatever else they
hold and in whatever order. A document that makes none has no part in what the console does. -/
theorem settings_are_layered {text : String} {d : Toml.Document}
    (hd : Toml.Document.ofText? text = some d) (hsections : Sectioned d) :
    ((ofText? text).isSome = true ↔ ∀ x v, Gives d x v → ∃ s, v = .string s) ∧
      (∀ c, ofText? text = some c →
        (∀ x, (∀ s, Gives d x (.string s) → x.get c = some s) ∧
          ((∀ v, ¬ Gives d x v) → x.get c = x.get default)) ∧
        (∀ url, Gives d .url (.string url) → c.database.connectionUrl = url) ∧
        ((∀ v, ¬ Gives d .url v) →
          c.database.connectionUrl = "sqlite://" ++ c.database.path ++ "?mode=rwc") ∧
        ∀ path, let outright := { c with database := ⟨path, some c.database.connectionUrl⟩ }
          (∀ file, Console.checkLines file outright = Console.checkLines file c) ∧
            ∀ (inv : Console.Invocation) supply v,
              inv.run supply outright v = inv.run supply c v) ∧
      (∀ text' d', Toml.Document.ofText? text' = some d' → Sectioned d' →
        (∀ x v, Gives d' x v ↔ Gives d x v) → ofText? text' = ofText? text) ∧
      (ofText? text = none →
        load (.bytes text.toUTF8) = .error .parse ∧
          ∀ inv : Console.Invocation, inv.configInForce (load (.bytes text.toUTF8)) =
            inv.configInForce (load .missing)) := by
  have hdistinct := Toml.Document.distinct_of_ofText? hd
  rw [ofText?_eq_ofDocument? hd]
  refine ⟨?_, fun c hc => ?_, fun text' d' hd' hsections' hsame => ?_, fun hnone => ?_⟩
  · rw [isSome_ofDocument?_iff]
    exact forall_congr' fun x => setting?_isSome_iff hdistinct hsections
  · have hgiven : ∀ x s, Gives d x (.string s) → x.get c = some s := fun x s h => by
      rw [get_of_ofDocument? hc (setting?_of_gives hdistinct h)]
      rfl
    have hdefault : ∀ x, (∀ v, ¬ Gives d x v) → x.get c = x.get default := fun x h => by
      rw [get_of_ofDocument? hc (setting?_of_not_gives hdistinct hsections h), Option.none_or]
    refine ⟨fun x => ⟨hgiven x, hdefault x⟩, fun url h => ?_, fun h => ?_, fun path =>
      console_of_connectionUrl rfl rfl rfl⟩
    · have hurl : c.database.url = some url := hgiven .url url h
      rw [DatabaseConfig.connectionUrl, hurl, Option.getD_some]
    · have hurl : c.database.url = none := hdefault .url h
      rw [DatabaseConfig.connectionUrl, hurl, Option.getD_none, DatabaseConfig.fileUrl]
  · have hdistinct' := Toml.Document.distinct_of_ofText? hd'
    rw [ofText?_eq_ofDocument? hd']
    refine ofDocument?_congr fun x => ?_
    by_cases hgiven : ∃ v, Gives d x v
    · obtain ⟨v, hv⟩ := hgiven
      rw [setting?_of_gives hdistinct hv, setting?_of_gives hdistinct' ((hsame x v).mpr hv)]
    · rw [not_exists] at hgiven
      rw [setting?_of_not_gives hdistinct hsections hgiven,
        setting?_of_not_gives hdistinct' hsections' fun v hv => hgiven v ((hsame x v).mp hv)]
  · have htext : ofText? text = none := by rw [ofText?_eq_ofDocument? hd, hnone]
    have hload := load_of_ofText? htext
    refine ⟨hload, fun inv => ?_⟩
    rw [hload]
    rfl

/-- One setting amid entries that are none, two of them under the names of settings. -/
theorem settings_are_layered_amid_others :
    let text := "path = 1\n[admin]\nlevel = [1, {a = 2}]\npassword = \"s3cret!\"\n[other]\n[logging]"
    ∃ d, (Toml.Document.ofText? text = some d ∧ Sectioned d) ∧
      ofText? text = some { default with admin := ⟨"admin", "s3cret!"⟩ } ∧
      ∀ x v, Gives d x v → ∃ s, v = .string s := by
  intro text
  have hread : (Toml.Document.ofText? text).any (fun d => decide (Sectioned d)) = true := by
    decide +kernel
  have hconfig : ofText? text = some { default with admin := ⟨"admin", "s3cret!"⟩ } := by
    decide +kernel
  obtain ⟨d, hd, hsections⟩ := (Option.any_eq_true _ _).mp hread
  have hsectioned : Sectioned d := of_decide_eq_true hsections
  exact ⟨d, ⟨hd, hsectioned⟩, hconfig,
    (settings_are_layered hd hsectioned).1.mp (by rw [hconfig]; rfl)⟩

end Config

end ChargingRegister
