import ChargingRegister.Console.Dialogue
import ChargingRegister.Proofs.Console.Document
import ChargingRegister.Proofs.Console.Execution
import ChargingRegister.Proofs.Registry.Failure

/-!
# Output is all or nothing

A command prints what its program answers, at its end and nowhere else: one report when the answer
is one, and nothing when the command fails, and then the store is as it was. A removal of several
stations never fails; its report accounts for every number.
-/
namespace ChargingRegister

namespace Dialogue

variable {α β γ : Type}

theorem bind_assoc (d : Dialogue α) (f : α → Dialogue β) (g : β → Dialogue γ) :
    (d.bind f).bind g = d.bind fun a => (f a).bind g := by
  induction d with
  | done a => rfl
  | call op next ih => exact congrArg (call op) (funext ih)
  | print report next ih => exact congrArg (print report) ih

theorem ofProgram_bind (p : Program α) (f : α → Program β) :
    ofProgram (p.bind f) = (ofProgram p).bind fun a => ofProgram (f a) := by
  induction p with
  | done a => rfl
  | call op next ih => exact congrArg (call op) (funext ih)

section

variable {σ : Type} (handle : Handler σ)

theorem run_ofProgram (p : Program α) (s : σ) :
    (ofProgram p).run handle s = ⟨(p.run handle s).1, [], (p.run handle s).2⟩ := by
  induction p generalizing s with
  | done a => rfl
  | call op next ih => exact ih _ _

/-- The second part of a dialogue prints after the first, and nothing of the first is lost. -/
theorem run_bind (d : Dialogue α) (f : α → Dialogue β) (s : σ) :
    let first := d.run handle s
    let second := (f first.value).run handle first.store
    (d.bind f).run handle s = { second with printed := first.printed ++ second.printed } := by
  induction d generalizing s with
  | done a => rfl
  | call op next ih => exact ih _ _
  | print report next ih =>
    intro first second
    rw [bind, run, ih s]
    rfl

end

end Dialogue

namespace Command

section

variable {α : Type} (next : α → Dialogue (Result Unit))

/-- What follows a program inside is what follows it outside. -/
theorem onSuccess_bind {β : Type} (p : Program β) (f : β → Program (Result α)) :
    onSuccess (p.bind f) next = (Dialogue.ofProgram p).bind fun b => onSuccess (f b) next := by
  rw [onSuccess, Dialogue.ofProgram_bind, Dialogue.bind_assoc]
  rfl

theorem onSuccess_reporting (p : Program (Result α)) (report : α → Report) :
    onSuccess (reporting p report) say = onSuccess p fun a => say (report a) := by
  rw [reporting, onSuccess_bind, onSuccess]
  refine congrArg _ (funext fun answer => ?_)
  cases answer <;> rfl

theorem onSuccess_withStation (id : Int) (follow : Station → Program (Result Report)) :
    onSuccess (withStation id follow) say = onSuccess (Registry.find id) fun
      | none => .done (.error (Registry.notFound id))
      | some station => onSuccess (follow station) say := by
  rw [withStation, onSuccess_bind, onSuccess]
  refine congrArg _ (funext fun answer => ?_)
  rcases answer with _ | _ | _ <;> rfl

end

/-- A command prints the report that its program answers, and does nothing after that. -/
theorem converse_eq (c : Command) : c.converse = onSuccess c.perform say := by
  cases c with
  | list | search | tally | delete =>
    rw [converse, perform, onSuccess_bind]
    rfl
  | statuses => rfl
  | inspect id =>
    rw [converse, perform, onSuccess_withStation]
    refine congrArg _ (funext fun found => ?_)
    cases found <;> rfl
  | add name location status => exact (onSuccess_reporting _ _).symm
  | setStatus id status => exact (onSuccess_reporting _ _).symm
  | update id patch =>
    rw [converse, perform, patchStation]
    cases Registry.checkId "update" id with
    | error e => rfl
    | ok _ =>
      show onSuccess (Registry.find id) _ = onSuccess (withStation id _) say
      rw [onSuccess_withStation]
      refine congrArg _ (funext fun found => ?_)
      cases found with
      | none => rfl
      | some station => exact (onSuccess_reporting _ _).symm

theorem dialogue_eq (session : Session) (c : Command) :
    c.dialogue session = onSuccess (c.execute session) say := by
  rw [dialogue, execute]
  cases c.gate session with
  | error e => rfl
  | ok _ => exact c.converse_eq

theorem run_onSuccess_say {σ : Type} (handle : Handler σ) (p : Program (Result Report)) (s : σ) :
    (onSuccess p say).run handle s =
      { value := (p.run handle s).1.map fun _ => ()
        printed := (p.run handle s).1.toOption.toList
        store := (p.run handle s).2 } := by
  rw [onSuccess, Dialogue.run_bind, Dialogue.run_ofProgram]
  cases (p.run handle s).1 <;> rfl

theorem withStation_atomic (id : Int) {next : Station → Program (Result Report)}
    (hnext : ∀ station, (next station).Atomic) : (withStation id next).Atomic := by
  rw [withStation]
  rcases Registry.find_cases id with h | h <;> rw [h]
  · exact .done fun _ _ h => by cases h
  · refine .read rfl (fun _ => rfl) fun found => ?_
    cases found with
    | none => exact .done fun _ _ h => by cases h
    | some station => exact hnext station

theorem reporting_atomic {α : Type} {p : Program (Result α)} (hp : p.Atomic) (report : α → Report) :
    (reporting p report).Atomic :=
  hp.map report

/-- A command that can fail is atomic; the others have something to report whatever is replied. -/
theorem perform_atomic_or (c : Command) :
    c.perform.Atomic ∨ ∀ {σ : Type} (handle : Handler σ) (s : σ),
      ∃ report, (c.perform.run handle s).1 = .ok report := by
  cases c with
  | list | search | tally | delete =>
    refine .inr fun handle s => ?_
    rw [perform, Program.run_bind]
    exact ⟨_, rfl⟩
  | statuses => exact .inr fun _ _ => ⟨_, rfl⟩
  | inspect id =>
    have hshown (station : Station) :
        Program.Atomic (.done (.ok (.station station)) : Program (Result Report)) :=
      .done fun _ _ h => by cases h
    exact .inl (withStation_atomic id hshown)
  | add name location status => exact .inl (reporting_atomic (Registry.create_atomic _) _)
  | setStatus id status =>
    exact .inl (reporting_atomic (Registry.RecordCall.updateStatus id status).program_atomic _)
  | update id patch =>
    refine .inl ?_
    rw [perform, patchStation]
    by_cases hid : id ≤ 0
    · rw [Registry.checkId_of_nonpos hid]
      exact .done fun _ _ h => by cases h
    · rw [Registry.checkId_of_pos (Int.not_le.mp hid)]
      exact withStation_atomic id fun _ => reporting_atomic (Registry.update_atomic _) _

theorem store_execute_of_error {session : Session} {c : Command} {now : Instant} {w : Probe Store}
    {e : RegistryError}
    (h : ((c.execute session).run (Probe.handle (Store.handle now)) w).1 = .error e) :
    ((c.execute session).run (Probe.handle (Store.handle now)) w).2.store = w.store := by
  rw [execute] at h ⊢
  cases hgate : c.gate session with
  | error e => rfl
  | ok _ =>
    rw [hgate] at h
    rcases c.perform_atomic_or with hatomic | hanswers
    · exact Registry.store_of_error hatomic h
    · obtain ⟨report, hreport⟩ := hanswers (Probe.handle (Store.handle now)) w
      cases h.symm.trans hreport

end Command

namespace Report

theorem append_ne_empty {s : String} (h : s ≠ "") (t : String) : s ++ t ≠ "" :=
  fun heq => h (String.append_eq_empty_iff.mp heq).1

theorem append_ne_empty_of_right (s : String) {t : String} (h : t ≠ "") : s ++ t ≠ "" :=
  fun heq => h (String.append_eq_empty_iff.mp heq).2

theorem exists_lines (r : Report) : ∃ first rest, r.lines = first :: rest ∧ first ≠ "" := by
  cases r with
  | stations shown total =>
    rw [lines, stationsLines]
    split
    · exact ⟨_, _, rfl, by decide⟩
    · exact ⟨header, _, rfl, by decide +kernel⟩
  | station s => exact ⟨_, _, rfl, append_ne_empty (by decide) _⟩
  | tally t => exact ⟨_, _, rfl, append_ne_empty (append_ne_empty (by decide) _) _⟩
  | statuses => exact ⟨_, _, rfl, append_ne_empty (append_ne_empty (by decide) _) _⟩
  | outcome operation id changed =>
    have hoperation : operation ++ ": station #" ≠ "" :=
      append_ne_empty_of_right operation (by decide)
    refine ⟨_, [], rfl, ?_⟩
    rw [outcomeLine]
    split <;> exact append_ne_empty (append_ne_empty hoperation _) _
  | removal summary =>
    -- the first line is about a missing station, a failed one, or the count
    obtain ⟨deleted, missing, failed⟩ := summary
    rcases missing with _ | ⟨id, missing⟩
    · rcases failed with _ | ⟨f, failed⟩
      · refine ⟨_, [], rfl, ?_⟩
        split <;> exact append_ne_empty_of_right _ (by decide)
      · exact ⟨_, _, rfl, append_ne_empty (append_ne_empty (append_ne_empty (by decide) _) _) _⟩
    · exact ⟨_, _, rfl, append_ne_empty (append_ne_empty (by decide) _) _⟩
  | session s =>
    exact ⟨_, _, rfl, append_ne_empty (append_ne_empty (append_ne_empty
      (append_ne_empty (by decide) _) _) _) _⟩

end Report

namespace Removal

def size (r : Removal) : Nat :=
  r.deleted.length + r.missing.length + r.failed.length

theorem size_note (r : Removal) (id : Int) (outcome : Registry.Result Bool) :
    (r.note id outcome).size = r.size + 1 := by
  match outcome with
  | .ok true | .ok false | .error _ =>
    simp only [note, size, List.length_append, List.length_singleton]
    omega

/-- Whatever a store replies, each number ends up in one of the groups. -/
theorem size_runFrom {σ : Type} (handle : Handler σ) (done : Removal) (ids : List Int) (s : σ) :
    ((runFrom done ids).run handle s).1.size = done.size + ids.length := by
  induction ids generalizing done s with
  | nil => rfl
  | cons id ids ih =>
    rw [runFrom, Program.run_bind, ih, size_note, List.length_cons]
    omega

end Removal

namespace Command

theorem execute_delete_run {session : Session} (h : session.mode = .administrator)
    (ids : List Int) {σ : Type} (handle : Handler σ) (s : σ) :
    ∃ summary : Removal,
      (((delete ids).execute session).run handle s).1 = .ok (.removal summary) ∧
        summary.size = ids.length := by
  rw [execute_of_administrator h, perform, Program.run_bind]
  exact ⟨_, rfl, (Removal.size_runFrom handle .empty ids s).trans (Nat.zero_add _)⟩

/-- Every command, in any session, over any store of which any operations fail: its dialogue comes
to what its program answers, and what stands on the output is what the answer is rendered as. When
it fails, it has printed nothing and the store is as it was. Otherwise it has printed one report,
which in JSON form is one document, and in text form whole lines with something in the first of
them. An administrator's removal never fails, and the groups of its report hold as many numbers as
were given. -/
theorem output_all_or_nothing (session : Session) (c : Command) (now : Instant) (w : Probe Store) :
    let handle := Probe.handle (Store.handle now)
    let answer := ((c.execute session).run handle w).1
    let ending := (c.dialogue session).run handle w
    ending.value = answer.map (fun _ => ()) ∧ ending.store = ((c.execute session).run handle w).2 ∧
      (∀ form, Dialogue.text form ending.printed = (Console.Outcome.ofResult form answer).printed) ∧
      (∀ e, ending.value = .error e → ending.printed = [] ∧ ending.store.store = w.store) ∧
      (ending.value = .ok () → ∃ report, ending.printed = [report] ∧ answer = .ok report ∧
        Json.ofText? (Dialogue.text .json ending.printed) = some report.toJson ∧
        ∃ first rest, report.lines = first :: rest ∧ first ≠ "" ∧
          Dialogue.text .text ending.printed = String.join ((first :: rest).map (· ++ "\n"))) ∧
      ∀ ids, c = .delete ids → session.mode = .administrator →
        ∃ summary : Removal, ending.value = .ok () ∧ ending.printed = [.removal summary] ∧
          summary.deleted.length + summary.missing.length + summary.failed.length = ids.length := by
  intro handle answer ending
  -- what is printed comes after the whole program
  have hending : ending = ⟨answer.map fun _ => (), answer.toOption.toList,
      ((c.execute session).run handle w).2⟩ := by
    show (c.dialogue session).run handle w = _
    rw [dialogue_eq, run_onSuccess_say]
  have htext (form : Report.Form) (report : Report) :
      Dialogue.text form [report] = report.render form := by
    simp [Dialogue.text]
  rw [hending]
  refine ⟨rfl, rfl, fun form => ?_, fun e he => ?_, fun hok => ?_, ?_⟩
  · cases answer with
    | error e => rfl
    | ok report => exact htext form report
  · cases hanswer : answer with
    | error e' => exact ⟨rfl, store_execute_of_error hanswer⟩
    | ok report =>
      rw [hanswer] at he
      cases he
  · cases hanswer : answer with
    | error e' =>
      rw [hanswer] at hok
      cases hok
    | ok report =>
      obtain ⟨first, rest, hlines, hfirst⟩ := report.exists_lines
      have hjson : Json.ofText? (Dialogue.text .json [report]) = some report.toJson := by
        rw [htext, Report.ofText?_render]
      refine ⟨report, rfl, rfl, hjson, first, rest, hlines, hfirst, ?_⟩
      show Dialogue.text .text [report] = _
      rw [htext, Report.render, hlines]
      rfl
  · rintro ids rfl hadministrator
    obtain ⟨summary, hsummary, hsize⟩ := execute_delete_run hadministrator ids handle w
    have hanswer : answer = .ok (.removal summary) := hsummary
    rw [hanswer]
    exact ⟨summary, rfl, rfl, hsize⟩

/-- The write of an edit fails after its read, and every removal fails. -/
theorem output_of_refused_writes :
    let session : Session := .administrator ⟨.ofRandom 0, .ofEpoch 0 0⟩ "root"
    let s := (runCalls Store.handle (fun n => .ofEpoch n 0)
      [.insert (.draft "a" none .available)] (.database .fresh)).2
    let w : Probe Store := ⟨s, [.update, .delete], "disk", []⟩
    let handle := Probe.handle (Store.handle (.ofEpoch 9 0))
    let edited := ((update 1 ⟨some "b", .clear, none⟩).dialogue session).run handle w
    let removed := ((delete [1, 0, 1]).dialogue session).run handle w
    edited.printed = [] ∧ edited.store.store = s ∧
      ∃ summary : Removal, removed.printed = [.removal summary] ∧
        summary.deleted.length + summary.missing.length + summary.failed.length = 3 := by
  intro session s w handle edited removed
  obtain ⟨-, -, -, hfailed, -⟩ :=
    output_all_or_nothing session (update 1 ⟨some "b", .clear, none⟩) (.ofEpoch 9 0) w
  obtain ⟨-, -, -, -, -, hremoval⟩ :=
    output_all_or_nothing session (delete [1, 0, 1]) (.ofEpoch 9 0) w
  have hvalue : edited.value = .error (.storageFailure "update" "disk") := by decide +kernel
  obtain ⟨hprinted, hstore⟩ := hfailed _ hvalue
  obtain ⟨summary, -, hsummary, hlength⟩ := hremoval _ rfl rfl
  exact ⟨hprinted, hstore, summary, hsummary, hlength⟩

end Command

end ChargingRegister
