import ChargingRegister.Console.Invocation
import ChargingRegister.Proofs.Console.Execution
import ChargingRegister.Proofs.Decimal
import ChargingRegister.Proofs.Status.Spelling

/-!
# Numbers on the command line

A number that is written in decimal is read back as it was. With a minus in front it has the shape
of options, so the place that it stands at decides: the one of the command that removes stations
takes negative numbers, those of the three other commands that name a station do not, and every
negative number is refused there as an unknown option. Numbers that are not positive and are read
are judged by the register.
-/
namespace ChargingRegister

namespace Console

theorem Shape.ofText_of_plain {text : String} (h : text.toList.head? ≠ some '-') :
    Shape.ofText text = .plain := by
  unfold ofText
  split <;> simp_all

theorem Shape.ofText_of_letters {text : String} {c : Char} {cs : List Char}
    (htext : text.toList = '-' :: c :: cs) (hc : c ≠ '-') :
    Shape.ofText text = .letters (c :: cs) := by
  unfold ofText
  rw [htext]
  split
  case h_1 heq => cases heq; exact absurd rfl hc
  case h_2 heq => cases heq; exact absurd rfl hc
  case h_3 heq => cases heq; rfl
  case h_4 hno => exact absurd rfl (hno c cs)

theorem looksNumeric_of_digits {cs : List Char} (hne : cs ≠ [])
    (h : ∀ c ∈ cs, Decimal.isDigit c = true) : looksNumeric cs = true := by
  have hother : ∀ d, Decimal.isDigit d = false → ∀ c ∈ cs, c ≠ d := by
    rintro d hd c hc rfl
    rw [h c hc] at hd
    cases hd
  have hmark : ∀ c ∈ cs, (!(c == 'e' || c == 'E')) = true := fun c hc => by
    simp [hother 'e' rfl c hc, hother 'E' rfl c hc]
  have hpoint : ∀ c ∈ cs, (c != '.') = true := fun c hc => by
    simp [hother '.' rfl c hc]
  simp only [looksNumeric]
  rw [List.takeWhile_eq_self_iff.mpr hmark, List.dropWhile_eq_nil_iff.mpr hmark,
    List.takeWhile_eq_self_iff.mpr hpoint, List.dropWhile_eq_nil_iff.mpr hpoint]
  simpa [hne] using h

theorem Shape.ofText_ofInt_of_nonneg {n : Int} (h : 0 ≤ n) :
    Shape.ofText (Decimal.ofInt n) = .plain := by
  obtain ⟨c, cs, hdigits, hall⟩ := Decimal.exists_digits n.toNat
  refine ofText_of_plain ?_
  rw [Decimal.toList_ofInt_of_nonneg h, hdigits]
  exact fun hminus => (Decimal.ne_sign_of_isDigit (hall c List.mem_cons_self)).1
    (Option.some.inj hminus)

/-- A minus and a digit look like an option, and like a number where one may stand. -/
theorem Shape.ofText_ofInt_of_neg {n : Int} (h : n < 0) :
    ∃ c cs, (Decimal.ofInt n).toList = '-' :: c :: cs ∧ Decimal.isDigit c = true ∧
      Shape.ofText (Decimal.ofInt n) = .letters (c :: cs) ∧ looksNumeric (c :: cs) = true := by
  obtain ⟨c, cs, hdigits, hall⟩ := Decimal.exists_digits n.natAbs
  have htext := Decimal.toList_ofInt_of_neg h
  have hc := hall c List.mem_cons_self
  rw [hdigits] at htext
  exact ⟨c, cs, htext, hc, ofText_of_letters htext (Decimal.ne_sign_of_isDigit hc).1,
    looksNumeric_of_digits (List.cons_ne_nil c cs) hall⟩

theorem Shape.ofText_of_status {text : String} {s : Status}
    (h : Status.ofArgument? text = some s) : Shape.ofText text = .plain :=
  ofText_of_plain (Status.ofArgument?_iff.mp h).1.head?_ne_dash

theorem ValueKind.read_ofInt {n : Int} (h : Decimal.FitsWord n) (name : String) :
    ValueKind.number.read name (Decimal.ofInt n) = .ok (.number n) := by
  rw [read, Decimal.signedWord?_ofInt h]

theorem ValueKind.read_status {text : String} {s : Status} (h : Status.ofArgument? text = some s)
    (name : String) : ValueKind.status.read name text = .ok (.status s) := by
  rw [read, h]

theorem ValueKind.mapM_read_ofInt {ids : List Int} (h : ∀ n ∈ ids, Decimal.FitsWord n)
    (name : String) : (ids.map Decimal.ofInt).mapM (ValueKind.number.read name) =
      .ok (ids.map .number) := by
  induction ids with
  | nil => rfl
  | cons n ids ih =>
    rw [List.forall_mem_cons] at h
    rw [List.map_cons, List.mapM_cons, read_ofInt h.1, ih h.2]
    rfl

theorem Bindings.add_of_read {b : Bindings} {slot : Slot} {texts : List String}
    {values : List Value} (hne : texts ≠ []) (hnew : b.has slot.name = false)
    (hread : texts.mapM (slot.kind.read slot.name) = .ok values) :
    b.add slot texts = .ok ((slot.name, b.values slot.name ++ values) :: b) := by
  have hnonempty : texts.isEmpty = false := by simpa using hne
  rw [add, hnonempty, hnew, hread]
  rfl

theorem Reading.settle_of_read {b : Bindings} {slot : Slot} {texts : List String}
    {values : List Value} (hne : texts ≠ []) (hnew : b.has slot.name = false)
    (hread : texts.mapM (slot.kind.read slot.name) = .ok values) (filled : Nat) :
    settle ⟨b, some (slot, texts), filled, false⟩ =
      .ok ⟨(slot.name, b.values slot.name ++ values) :: b, none, filled, false⟩ := by
  simp only [settle, Bindings.add_of_read hne hnew hread, bind, Except.bind]

namespace Grammar

theorem foldlM_consult_none (switches : List Switch) (b : Bindings) :
    switches.foldlM (consult fun _ => none) b = .ok b := by
  induction switches with
  | nil => rfl
  | cons s switches ih =>
    have hstep : consult (fun _ => none) b s = .ok b := by
      unfold consult
      split <;> simp_all
    rw [List.foldlM_cons, hstep]
    exact ih

theorem finish_of_settle {g : Grammar} {r settled : Reading} (h : r.settle = .ok settled)
    (hexclusive : ∀ p ∈ g.exclusive, (settled.bound.has p.1 && settled.bound.has p.2) = false) :
    g.finish (fun _ => none) r = .ok settled.bound := by
  have hnone : g.exclusive.find? (fun p => settled.bound.has p.1 && settled.bound.has p.2) = none :=
    List.find?_eq_none.mpr fun p hp => Bool.eq_false_iff.mp (hexclusive p hp)
  simp only [finish, h, bind, Except.bind, foldlM_consult_none, hnone]

theorem step_of_plain {g : Grammar} {r : Reading} {text : String} (hopen : r.trailing = false)
    (h : Shape.ofText text = .plain) : g.step r text = g.takeValue r text := by
  rw [step, hopen, h]
  rfl

theorem step_ofInt_of_many {g : Grammar} {r : Reading} (hopen : r.trailing = false)
    (hmany : (g.openPlace? r).any (·.many) = true) (n : Int) :
    g.step r (Decimal.ofInt n) = g.takeValue r (Decimal.ofInt n) := by
  rcases Int.lt_or_le n 0 with hneg | hpos
  · obtain ⟨c, cs, -, -, hshape, hnumeric⟩ := Shape.ofText_ofInt_of_neg hneg
    rw [step, hopen, hshape]
    show (if ((g.openPlace? r).any (·.many) && looksNumeric (c :: cs)) = true then _ else _) = _
    rw [hmany, hnumeric]
    rfl
  · exact step_of_plain hopen (Shape.ofText_ofInt_of_nonneg hpos)

def minusComplaint (n : Int) : UsageError :=
  .unknownArgument (String.ofList ((Decimal.ofInt n).toList.take 2))

/-- At any other place a negative number is an option that nobody knows. -/
theorem step_ofInt_of_neg {g : Grammar} {r : Reading} (hopen : r.trailing = false)
    (hsingle : (g.openPlace? r).any (·.many) = false)
    (hletters : ∀ c, Decimal.isDigit c = true → g.lettered? c = none) {n : Int} (h : n < 0) :
    g.step r (Decimal.ofInt n) = .error (minusComplaint n) := by
  obtain ⟨c, cs, htext, hc, hshape, -⟩ := Shape.ofText_ofInt_of_neg h
  have hcomplaint : minusComplaint n = .unknownArgument ("-" ++ String.singleton c) := by
    rw [minusComplaint, htext]
    exact congrArg UsageError.unknownArgument (String.toList_inj.mp (by simp))
  rw [step, hopen, hshape]
  show (if ((g.openPlace? r).any (·.many) && looksNumeric (c :: cs)) = true then _ else _) = _
  rw [hsingle, hcomplaint]
  show g.takeLetters r (c :: cs) = _
  rw [takeLetters, hletters c hc]

end Grammar

/-- The commands whose first place is the number of a station. -/
def numberedForms : List CommandForm :=
  [showForm, updateForm, setStatusForm]

theorem numberedForms_cases {f : CommandForm} (hf : f ∈ numberedForms) :
    f = showForm ∨ f = updateForm ∨ f = setStatusForm := by
  simpa [numberedForms] using hf

theorem numberedForms_subset {f : CommandForm} (hf : f ∈ numberedForms) : f ∈ commandForms := by
  rcases numberedForms_cases hf with rfl | rfl | rfl <;> simp [commandForms]

theorem CommandForm.lettered?_of_isDigit {f : CommandForm} (hf : f ∈ numberedForms) {c : Char}
    (hc : Decimal.isDigit c = true) : f.grammar.lettered? c = none := by
  have hh : ('h' == c) = false := by
    rw [beq_eq_false_iff_ne]
    rintro rfl
    cases hc
  rcases numberedForms_cases hf with rfl | rfl | rfl <;>
    simp [Grammar.lettered?, showForm, updateForm, setStatusForm, commandGrammar, helpSwitch,
      optional, hh]

theorem CommandForm.read_of_neg {f : CommandForm} (hf : f ∈ numberedForms) {id : Int} (h : id < 0)
    (rest : List String) :
    f.read (Decimal.ofInt id :: rest) = .error (Grammar.minusComplaint id) := by
  have hstep : f.grammar.step .start (Decimal.ofInt id) = .error (Grammar.minusComplaint id) := by
    refine Grammar.step_ofInt_of_neg rfl ?_ (fun c hc => CommandForm.lettered?_of_isDigit hf hc) h
    rcases numberedForms_cases hf with rfl | rfl | rfl <;> rfl
  rw [read, List.foldlM_cons, hstep]
  rfl

/-- The first place is filled with a number that is not negative. -/
theorem CommandForm.step_of_nonneg {f : CommandForm} (hf : f ∈ numberedForms) {id : Int}
    (h : 0 ≤ id) : f.grammar.step .start (Decimal.ofInt id) =
      .ok ⟨[], some (place "id" .number, [Decimal.ofInt id]), 1, false⟩ := by
  rw [Grammar.step_of_plain rfl (Shape.ofText_ofInt_of_nonneg h)]
  rcases numberedForms_cases hf with rfl | rfl | rfl <;> rfl

theorem CommandForm.foldlM_of_nonneg {f : CommandForm} (hf : f ∈ numberedForms) {id : Int}
    (h : 0 ≤ id) : [Decimal.ofInt id].foldlM f.grammar.step .start =
      .ok ⟨[], some (place "id" .number, [Decimal.ofInt id]), 1, false⟩ := by
  rw [List.foldlM_cons, step_of_nonneg hf h]
  rfl

theorem settle_number {id : Int} (h : Decimal.FitsWord id) (filled : Nat) :
    Reading.settle ⟨[], some (place "id" .number, [Decimal.ofInt id]), filled, false⟩ =
      .ok ⟨[("id", [.number id])], none, filled, false⟩ :=
  Reading.settle_of_read (List.cons_ne_nil _ _) rfl
    (ValueKind.mapM_read_ofInt (List.forall_mem_singleton.mpr h) "id") filled

theorem CommandForm.read_of_steps {f : CommandForm} {args : List String} {r settled : Reading}
    {c : Command} (hsteps : args.foldlM f.grammar.step .start = .ok r)
    (hsettle : r.settle = .ok settled)
    (hexclusive : ∀ p ∈ f.grammar.exclusive,
      (settled.bound.has p.1 && settled.bound.has p.2) = false)
    (hcommand : f.command? settled.bound = some c) : f.read args = .ok c := by
  simp only [read, hsteps, Grammar.finish_of_settle hsettle hexclusive, hcommand, bind, Except.bind]

section

variable {id : Int} (hword : Decimal.FitsWord id) (hpos : 0 ≤ id)

include hword hpos

theorem showForm_read : showForm.read [Decimal.ofInt id] = .ok (.inspect id) := by
  have hform : showForm ∈ numberedForms := by simp [numberedForms]
  exact CommandForm.read_of_steps (CommandForm.foldlM_of_nonneg hform hpos)
    (settle_number hword 1) (List.forall_mem_nil _) rfl

theorem updateForm_read :
    updateForm.read [Decimal.ofInt id] = .ok (.update id ⟨none, .keep, none⟩) := by
  have hform : updateForm ∈ numberedForms := by simp [numberedForms]
  exact CommandForm.read_of_steps (CommandForm.foldlM_of_nonneg hform hpos)
    (settle_number hword 1) (List.forall_mem_singleton.mpr rfl) rfl

theorem setStatusForm_read {text : String} {s : Status}
    (htext : Status.ofArgument? text = some s) :
    setStatusForm.read [Decimal.ofInt id, text] = .ok (.setStatus id s) := by
  have hform : setStatusForm ∈ numberedForms := by simp [numberedForms]
  have hsecond : setStatusForm.grammar.step
      ⟨[], some (place "id" .number, [Decimal.ofInt id]), 1, false⟩ text =
      .ok ⟨[("id", [.number id])], some (place "status" .status, [text]), 2, false⟩ := by
    rw [Grammar.step_of_plain rfl (Shape.ofText_of_status htext)]
    show (Reading.settle ⟨[], some (place "id" .number, [Decimal.ofInt id]), 1, false⟩).bind _ = _
    rw [settle_number hword]
    rfl
  have hsteps : [Decimal.ofInt id, text].foldlM setStatusForm.grammar.step .start =
      .ok ⟨[("id", [.number id])], some (place "status" .status, [text]), 2, false⟩ := by
    rw [List.foldlM_cons, CommandForm.step_of_nonneg hform hpos]
    show (setStatusForm.grammar.step _ text).bind _ = _
    rw [hsecond]
    rfl
  have hread : [text].mapM (ValueKind.status.read "status") = .ok [.status s] := by
    rw [List.mapM_cons, ValueKind.read_status htext]
    rfl
  exact CommandForm.read_of_steps hsteps
    (Reading.settle_of_read (List.cons_ne_nil _ _) rfl hread 2) (List.forall_mem_nil _) rfl

end

def idsPlace : Slot :=
  ⟨"ids", .number, true⟩

theorem deleteForm_foldlM (text : String) (texts : List String) (ids : List Int) :
    (ids.map Decimal.ofInt).foldlM deleteForm.grammar.step
        ⟨[], some (idsPlace, text :: texts), 0, false⟩ =
      .ok ⟨[], some (idsPlace, text :: (texts ++ ids.map Decimal.ofInt)), 0, false⟩ := by
  induction ids generalizing texts with
  | nil => simp [pure, Except.pure]
  | cons id ids ih =>
    have hstep : deleteForm.grammar.step ⟨[], some (idsPlace, text :: texts), 0, false⟩
        (Decimal.ofInt id) =
          .ok ⟨[], some (idsPlace, text :: (texts ++ [Decimal.ofInt id])), 0, false⟩ :=
      Grammar.step_ofInt_of_many rfl rfl id
    rw [List.map_cons, List.foldlM_cons, hstep]
    show List.foldlM _ _ _ = _
    rw [ih, List.append_assoc]
    rfl

theorem deleteForm_read {ids : List Int} (hne : ids ≠ []) (h : ∀ n ∈ ids, Decimal.FitsWord n) :
    deleteForm.read (ids.map Decimal.ofInt) = .ok (.delete ids) := by
  obtain ⟨id, rest, rfl⟩ := List.exists_cons_of_ne_nil hne
  have hfirst : deleteForm.grammar.step .start (Decimal.ofInt id) =
      .ok ⟨[], some (idsPlace, [Decimal.ofInt id]), 0, false⟩ :=
    Grammar.step_ofInt_of_many rfl rfl id
  have hsteps : ((id :: rest).map Decimal.ofInt).foldlM deleteForm.grammar.step .start =
      .ok ⟨[], some (idsPlace, (id :: rest).map Decimal.ofInt), 0, false⟩ := by
    rw [List.map_cons, List.foldlM_cons, hfirst]
    exact deleteForm_foldlM (Decimal.ofInt id) [] rest
  have hcommand : deleteForm.command? [("ids", (id :: rest).map Value.number)] =
      some (.delete (id :: rest)) := by
    show some (Command.delete (((id :: rest).map Value.number).filterMap _)) = _
    rw [List.filterMap_map]
    exact congrArg (fun read => some (Command.delete read)) (List.filterMap_some)
  exact CommandForm.read_of_steps hsteps
    (Reading.settle_of_read (by simp) rfl (ValueKind.mapM_read_ofInt h "ids") 0)
    (List.forall_mem_nil _) hcommand

theorem exists_foldlM_consult {environment : String → Option String} {switches : List Switch}
    (h : ∀ s ∈ switches, ∀ kind text, s.effect = .take kind →
      s.fromVariable.bind environment = some text → ∃ v, kind.read s.name text = .ok v)
    (b : Bindings) : ∃ b', switches.foldlM (Grammar.consult environment) b = .ok b' := by
  induction switches generalizing b with
  | nil => exact ⟨b, rfl⟩
  | cons s switches ih =>
    rw [List.forall_mem_cons] at h
    have hstep : ∃ b', Grammar.consult environment b s = .ok b' := by
      unfold Grammar.consult
      split
      case h_1 kind text heffect hvariable =>
        cases hbound : b.has s.name with
        | true => exact ⟨b, rfl⟩
        | false =>
          obtain ⟨v, hv⟩ := h.1 kind text heffect hvariable
          have hread : [text].mapM (kind.read s.name) = .ok [v] := by
            rw [List.mapM_cons, hv]
            rfl
          exact ⟨_, Bindings.add_of_read (List.cons_ne_nil _ _) hbound hread⟩
      case h_2 => exact ⟨b, rfl⟩
    obtain ⟨b', hb'⟩ := hstep
    rw [List.foldlM_cons, hb']
    exact ih h.2 b'

/-- Only an empty path in a variable spoils a line without options. -/
theorem exists_finish_start {environment : String → Option String}
    (h : environment Config.pathVariable ≠ some "") :
    ∃ b, mainGrammar.finish environment .start = .ok b := by
  have hread : ∀ s ∈ mainGrammar.switches, ∀ kind text, s.effect = .take kind →
      s.fromVariable.bind environment = some text → ∃ v, kind.read s.name text = .ok v := by
    -- of the switches that read a variable only the one for the path refuses a text
    have hvariables : ∀ s ∈ mainGrammar.switches, s.fromVariable = none ∨
        s.effect = .take .text ∨ s.effect = .take .path ∧ s.fromVariable = some Config.pathVariable :=
      by decide
    intro s hs kind text heffect hvariable
    rcases hvariables s hs with hnone | htext | ⟨hkind, hfrom⟩
    · rw [hnone] at hvariable
      cases hvariable
    · cases htext.symm.trans heffect
      exact ⟨_, rfl⟩
    · cases hkind.symm.trans heffect
      rw [hfrom] at hvariable
      have hnonempty : text.isEmpty = false := by
        rw [Bool.eq_false_iff, ne_eq, String.isEmpty_iff]
        rintro rfl
        exact h hvariable
      exact ⟨.text text, by rw [ValueKind.read, hnonempty]; rfl⟩
  obtain ⟨b, hb⟩ := exists_foldlM_consult hread []
  refine ⟨b, ?_⟩
  simp only [Grammar.finish, Reading.start, Reading.settle, bind, Except.bind, hb]
  rfl

theorem ofArguments_command {f : CommandForm} (hf : f ∈ commandForms) (args : List String)
    (environment : String → Option String) :
    Invocation.ofArguments environment (f.name :: args) = (f.read args).bind fun c =>
      (mainGrammar.finish environment .start).map fun b => ⟨.ofBindings b, some c⟩ := by
  have hknown : ∀ f ∈ commandForms, f.name ≠ helpName ∧ commandNames.contains f.name = true := by
    decide
  have hfind : commandForms.find? (·.name == f.name) = some f := by
    simp only [commandForms, List.mem_cons, List.not_mem_nil, or_false] at hf
    rcases hf with rfl | rfl | rfl | rfl | rfl | rfl | rfl | rfl | rfl <;> rfl
  have hcommand : readCommand f.name args = f.read args := by
    rw [readCommand, if_neg (hknown f hf).1, hfind]
  rw [Invocation.ofArguments, readLine, hcommand, (hknown f hf).2]
  cases f.read args with
  | error e => rfl
  | ok c =>
    show (mainGrammar.finish environment .start).bind _ =
      (mainGrammar.finish environment .start).map _
    cases mainGrammar.finish environment .start <;> rfl

/-- The line is read as the command, except where the variable for the path of the configuration
holds an empty text, which spoils every line without that option. -/
def ReadAs (args : List String) (c : Command) : Prop :=
  ∀ environment : String → Option String, environment Config.pathVariable ≠ some "" →
    (Invocation.ofArguments environment args).map (·.command) = .ok (some c)

/-- The line ends in the complaint, whatever the variables hold. -/
def RefusedAs (args : List String) (e : UsageError) : Prop :=
  ∀ environment, Invocation.ofArguments environment args = .error e

section

variable {f : CommandForm} (hf : f ∈ commandForms) {args : List String}

include hf

theorem readAs_of_read {c : Command} (h : f.read args = .ok c) : ReadAs (f.name :: args) c := by
  intro environment hpath
  obtain ⟨b, hb⟩ := exists_finish_start hpath
  rw [ofArguments_command hf, h]
  show (Except.map _ (Except.map _ _)) = _
  rw [hb]
  rfl

theorem refusedAs_of_read {e : UsageError} (h : f.read args = .error e) :
    RefusedAs (f.name :: args) e := by
  intro environment
  rw [ofArguments_command hf, h]
  rfl

end

theorem RefusedAs.not_readAs {args : List String} {e : UsageError} (h : RefusedAs args e)
    (c : Command) : ¬ ReadAs args c := by
  intro hread
  have hnone := hread (fun _ => none) (fun hempty => Option.some_ne_none _ hempty.symm)
  rw [h] at hnone
  cases hnone

open Registry in
/-- Written in decimal, every number of 64 bits is read back by the command that removes stations,
in any list; the commands that show, update or mark one station read those that are not negative
and refuse the others as unknown options. What is read and not positive is judged by the register:
it belongs to no station, or the input is invalid. -/
theorem numbers_read_iff_nonneg {id : Int} (hword : Decimal.FitsWord id) {text : String}
    {status : Status} (htext : Status.ofArgument? text = some status) :
    (ReadAs ["show", Decimal.ofInt id] (.inspect id) ↔ 0 ≤ id) ∧
    (ReadAs ["update", Decimal.ofInt id] (.update id ⟨none, .keep, none⟩) ↔ 0 ≤ id) ∧
    (ReadAs ["set-status", Decimal.ofInt id, text] (.setStatus id status) ↔ 0 ≤ id) ∧
    (id < 0 → ∀ name ∈ ["show", "update", "set-status"], ∀ rest,
      RefusedAs (name :: Decimal.ofInt id :: rest) (Grammar.minusComplaint id)) ∧
    (∀ ids ≠ [], (∀ n ∈ ids, Decimal.FitsWord n) →
      ReadAs ("delete" :: ids.map Decimal.ofInt) (.delete ids)) ∧
    (id ≤ 0 → ∀ session : Session,
      (Command.inspect id).execute session = .done (.error (notFound id)) ∧
      (session.mode = .administrator →
        (Command.update id ⟨none, .keep, none⟩).execute session =
          .done (.error (badId "update" id)) ∧
        (Command.setStatus id status).execute session =
          .done (.error (badId "update_status" id)) ∧
        ∀ ids, id ∈ ids → ∀ (handle : Handler (Probe Store)) (w : Probe Store),
          ∃ summary : Removal,
            (((Command.delete ids).execute session).run handle w).1 = .ok (.removal summary) ∧
              (id, badId "delete" id) ∈ summary.failed)) := by
  have hrefused : id < 0 → ∀ f ∈ numberedForms, ∀ rest,
      RefusedAs (f.name :: Decimal.ofInt id :: rest) (Grammar.minusComplaint id) :=
    fun hneg f hf rest =>
      refusedAs_of_read (numberedForms_subset hf) (CommandForm.read_of_neg hf hneg rest)
  -- the three commands share the place of the number
  have hiff : ∀ f ∈ numberedForms, ∀ rest c, (0 ≤ id → f.read (Decimal.ofInt id :: rest) = .ok c) →
      (ReadAs (f.name :: Decimal.ofInt id :: rest) c ↔ 0 ≤ id) := by
    intro f hf rest c hread
    refine ⟨fun hreads => ?_, fun hpos => readAs_of_read (numberedForms_subset hf) (hread hpos)⟩
    by_contra hneg
    exact (hrefused (Int.not_le.mp hneg) f hf rest).not_readAs c hreads
  refine ⟨?_, ?_, ?_, ?_, ?_, ?_⟩
  · exact hiff showForm (by simp [numberedForms]) [] _ fun hpos => showForm_read hword hpos
  · exact hiff updateForm (by simp [numberedForms]) [] _ fun hpos => updateForm_read hword hpos
  · exact hiff setStatusForm (by simp [numberedForms]) [text] _
      fun hpos => setStatusForm_read hword hpos htext
  · intro hneg name hname
    have hnames : ["show", "update", "set-status"] = numberedForms.map (·.name) := rfl
    rw [hnames] at hname
    obtain ⟨f, hf, rfl⟩ := List.mem_map.mp hname
    exact hrefused hneg f hf
  · intro ids hne hwords
    exact readAs_of_read (by simp [commandForms]) (deleteForm_read hne hwords)
  · intro hid session
    refine ⟨Command.withStation_of_nonpos hid _, fun hmode => ?_⟩
    simp only [Command.execute_of_administrator hmode]
    exact ⟨Command.perform_update_of_nonpos hid _, Command.perform_setStatus_of_nonpos hid _,
      fun ids hmem handle w => Command.perform_delete_of_nonpos hid hmem handle w⟩

/-- A number that is refused where one station is marked and read where stations are removed. -/
theorem numbers_read_about_minus_seven :
    Decimal.FitsWord (-7) ∧ Status.ofArgument? "out-of-service" = some .outOfService ∧
      ¬ ReadAs ["show", "-7"] (.inspect (-7)) ∧
      RefusedAs ["set-status", "-7", "out-of-service"] (.unknownArgument "-7") ∧
      ReadAs ["delete", "-7", "12"] (.delete [-7, 12]) := by
  have hword : Decimal.FitsWord (-7) := by decide
  have htext : Status.ofArgument? "out-of-service" = some .outOfService := by decide
  obtain ⟨hshow, -, -, hrefused, hdelete, -⟩ := numbers_read_iff_nonneg hword htext
  refine ⟨hword, htext, fun hread => absurd (hshow.mp hread) (by decide), ?_, ?_⟩
  · exact hrefused (by decide) "set-status" (by decide) ["out-of-service"]
  · exact hdelete [-7, 12] (List.cons_ne_nil _ _) (by decide)

/-- No number in front of which a minus stands reaches the three commands. -/
theorem negative_numbers_lost :
    ¬ ReadAs ["show", "-1"] (.inspect (-1)) ∧
      ¬ ReadAs ["update", "-2"] (.update (-2) ⟨none, .keep, none⟩) ∧
      ¬ ReadAs ["set-status", "-3", "charging"] (.setStatus (-3) .charging) := by
  have hlost : ∀ f ∈ numberedForms, ∀ id : Int, id < 0 → ∀ rest c,
      ¬ ReadAs (f.name :: Decimal.ofInt id :: rest) c := fun f hf id hneg rest =>
    (refusedAs_of_read (numberedForms_subset hf) (CommandForm.read_of_neg hf hneg rest)).not_readAs
  refine ⟨?_, ?_, ?_⟩
  · exact hlost showForm (by simp [numberedForms]) (-1) (by decide) [] _
  · exact hlost updateForm (by simp [numberedForms]) (-2) (by decide) [] _
  · exact hlost setStatusForm (by simp [numberedForms]) (-3) (by decide) ["charging"] _

end Console

end ChargingRegister
