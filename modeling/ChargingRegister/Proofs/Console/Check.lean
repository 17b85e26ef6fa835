import ChargingRegister.Console.Outcome

/-!
# Checking a configuration

A check reports a valid configuration whatever it finds. What cannot be loaded has been replaced
by the defaults before, so the report is right just for the files that can be loaded.
-/
namespace ChargingRegister.Console

/-- The process succeeds, and the first thing it prints is that the configuration is valid. -/
def Outcome.ReportsValid (o : Outcome) : Prop :=
  o.exitCode = 0 ∧ ∃ lines, o.printed = Report.ofLines ("Configuration is valid" :: lines)

namespace Invocation

variable {inv : Invocation} {s : Surroundings}

theorem outcome_of_check (h : inv.options.check = true) (v : Volume) :
    inv.outcome s v =
      let path := inv.configPath s.environment s.accountHome
      let config := inv.configInForce (Config.load (s.configAt path))
      (⟨0, Report.ofLines (checkLines path config), ""⟩, v) := by
  rw [outcome]
  exact if_pos h

theorem reportsValid_of_check (h : inv.options.check = true) (v : Volume) :
    (inv.outcome s v).1.ReportsValid := by
  rw [outcome_of_check h]
  exact ⟨rfl, _, rfl⟩

/-- Whatever cannot be loaded leaves the defaults in force, as a missing file does. -/
theorem configInForce_of_not_isOk {loaded : Except Config.LoadError Config}
    (h : loaded.isOk = false) : inv.configInForce loaded = inv.configInForce (Config.load .missing) := by
  cases loaded with
  | ok config => cases h
  | error e => rfl

end Invocation

/-- A check says that all is well, so it is right about a file just when that can be loaded; any
other file is reported on like one that is not there. -/
theorem check_right_iff_loads {args : List String} {s : Surroundings} {inv : Invocation}
    (hargs : Invocation.ofArguments s.environment args = .ok inv)
    (hcheck : inv.options.check = true) (v : Volume) :
    let loaded := Config.load (s.configAt (inv.configPath s.environment s.accountHome))
    let after := Outcome.ofArguments args s v
    (after.1.ReportsValid ∧ after.2 = v) ∧
      ((after.1.ReportsValid ↔ loaded.isOk = true) ↔ loaded.isOk = true) ∧
      (loaded.isOk = false →
        after = Outcome.ofArguments args { s with configAt := fun _ => .missing } v) := by
  intro loaded after
  have hafter : after = inv.outcome s v := by
    show Outcome.ofArguments args s v = _
    rw [Outcome.ofArguments, hargs]
  have hvalid : after.1.ReportsValid := hafter ▸ Invocation.reportsValid_of_check hcheck v
  refine ⟨⟨hvalid, ?_⟩, ?_, fun hbad => ?_⟩
  · rw [hafter, Invocation.outcome_of_check hcheck]
  · exact ⟨fun h => h.mp hvalid, fun h => ⟨fun _ => h, fun _ => hvalid⟩⟩
  · have hconfig : inv.configInForce loaded = inv.configInForce (Config.load .missing) :=
      Invocation.configInForce_of_not_isOk hbad
    rw [hafter, Outcome.ofArguments, hargs]
    show inv.outcome s v = inv.outcome { s with configAt := fun _ => .missing } v
    rw [Invocation.outcome_of_check hcheck, Invocation.outcome_of_check hcheck]
    show (Outcome.mk 0 (Report.ofLines (checkLines _ (inv.configInForce loaded))) "", v) = _
    rw [hconfig]

def surroundingsOf (source : Config.Source) : Surroundings where
  environment := fun _ => none
  accountHome := none
  configAt := fun _ => source
  supply := ⟨⟨.ofRandom 0, .ofEpoch 0 ⟨0, by decide⟩⟩, Vector.ofFn fun i => i.val.toUInt8⟩

def checkArguments : List String :=
  ["--check", "-c", "config.toml"]

theorem ofArguments_checkArguments (source : Config.Source) :
    Invocation.ofArguments (surroundingsOf source).environment checkArguments =
      .ok ⟨⟨some "config.toml", none, false, false, false, none, none, true⟩, none⟩ := rfl

/-- The check of one file gives the right answer about it. -/
def CheckedRight (source : Config.Source) : Prop :=
  (Outcome.ofArguments checkArguments (surroundingsOf source) ⟨[], [], []⟩).1.ReportsValid ↔
    (Config.load source).isOk = true

theorem check_right_about_empty_file : CheckedRight (.bytes ⟨#[]⟩) :=
  (check_right_iff_loads (ofArguments_checkArguments (.bytes ⟨#[]⟩)) rfl ⟨[], [], []⟩).2.1.mpr
    (by decide +kernel)

theorem not_checkedRight {source : Config.Source} (h : (Config.load source).isOk = false) :
    ¬ CheckedRight source := by
  intro hright
  have hvalid : (Outcome.ofArguments checkArguments (surroundingsOf source)
      ⟨[], [], []⟩).1.ReportsValid := by
    rw [Outcome.ofArguments, ofArguments_checkArguments]
    exact Invocation.reportsValid_of_check rfl _
  have hloads := hright.mp hvalid
  rw [h] at hloads
  cases hloads

/-- A level that is a number, bytes that are no text and a directory are all reported as valid. -/
theorem check_wrong_about_bad_files :
    ¬ CheckedRight (.bytes "[logging]\nlevel = 3".toUTF8) ∧ ¬ CheckedRight (.bytes ⟨#[0xFF]⟩) ∧
      ¬ CheckedRight .unreadable :=
  ⟨not_checkedRight (by decide +kernel), not_checkedRight (by decide +kernel), not_checkedRight rfl⟩

end ChargingRegister.Console
