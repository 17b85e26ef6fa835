import ChargingRegister.Console.Outcome
import ChargingRegister.Proofs.Store.Calls

/-!
# The gate over whole runs

A console goes through sessions and commands, one after another, before a store that is watched
and can fail. Stations change in the sessions of administrators only, such a session begins with
credentials that were accepted, and accounts never change.
-/
namespace ChargingRegister

namespace Command

/-- The commands that write, each with the operation for which it needs leave. -/
inductive Mutating : Command → String → Prop
  | add (name : String) (location : Option String) (status : Status) :
    Mutating (.add name location status) "create"
  | update (id : Int) (patch : Patch) : Mutating (.update id patch) "update"
  | setStatus (id : Int) (status : Status) : Mutating (.setStatus id status) "update_status"
  | delete (ids : List Int) : Mutating (.delete ids) "delete"

theorem writes?_eq_some_iff {c : Command} {operation : String} :
    c.writes? = some operation ↔ c.Mutating operation := by
  constructor
  · intro h
    cases c with
    | add | update | setStatus | delete => cases h; constructor
    | list | search | inspect | tally | statuses => cases h
  · rintro ⟨⟩ <;> rfl

/-- The calls that a command can make once the gate is passed. -/
def callKinds : Command → List StoreOp.Kind
  | .list .. | .tally => [.findAll]
  | .search _ => [.findAll, .search]
  | .inspect _ => [.findById]
  | .statuses => []
  | .add .. => [.insert]
  | .update .. | .setStatus .. => [.findById, .update]
  | .delete _ => [.delete]

theorem withStation_callsOnly {kinds : List StoreOp.Kind} (hkinds : .findById ∈ kinds) (id : Int)
    {next : Station → Program (Result Report)} (hnext : ∀ s, (next s).CallsOnly kinds) :
    (withStation id next).CallsOnly kinds := by
  have hfind : (Registry.find id).CallsOnly kinds :=
    (Registry.find_callsOnly id).mono (List.cons_subset.mpr ⟨hkinds, List.nil_subset _⟩)
  refine hfind.bind fun answer => ?_
  match answer with
  | .error _ => exact .done _
  | .ok none => exact .done _
  | .ok (some s) => exact hnext s

theorem reporting_callsOnly {α : Type} {kinds : List StoreOp.Kind} {p : Program (Result α)}
    (hp : p.CallsOnly kinds) (report : α → Report) : (reporting p report).CallsOnly kinds :=
  hp.bind fun _ => .done _

theorem perform_callsOnly (c : Command) : c.perform.CallsOnly c.callKinds := by
  cases c with
  | list text status =>
    have hload : Snapshot.loadAll.CallsOnly [.findAll] :=
      Registry.findAll_callsOnly.bind fun _ => .done _
    exact hload.bind fun _ => .done _
  | search text => exact (Registry.search_callsOnly text).bind fun _ => .done _
  | inspect id => exact withStation_callsOnly List.mem_cons_self id fun _ => .done _
  | tally => exact Registry.statistics_callsOnly.bind fun _ => .done _
  | statuses => exact .done _
  | add name location status => exact reporting_callsOnly (Registry.create_callsOnly _) _
  | update id patch =>
    rw [perform, patchStation]
    split
    · exact .done _
    · refine withStation_callsOnly List.mem_cons_self id fun s => ?_
      exact reporting_callsOnly
        ((Registry.update_callsOnly _).mono (List.subset_cons_self _ _)) _
  | setStatus id status => exact reporting_callsOnly (Registry.updateStatus_callsOnly id status) _
  | delete ids => exact (Removal.runFrom_callsOnly _ ids).bind fun _ => .done _

/-- A command that does not write makes no call that writes. -/
theorem callKinds_read {c : Command} (h : c.writes? = none) :
    ∀ k ∈ c.callKinds, k.writes = false := by
  cases c with
  | add | update | setStatus | delete => cases h
  | list | search | inspect | tally | statuses => simp [callKinds, StoreOp.Kind.writes]

theorem callKinds_stations {c : Command} (h : c.writes? = none) :
    ∀ k ∈ c.callKinds, k.changesStations = false :=
  fun k hk => StoreOp.Kind.changesStations_of_writes (callKinds_read h k hk)

theorem callKinds_accounts (c : Command) : ∀ k ∈ c.callKinds, k.changesAccounts = false := by
  cases c <;> simp [callKinds, StoreOp.Kind.changesAccounts]

theorem execute_callsOnly (session : Session) (c : Command) :
    (c.execute session).CallsOnly c.callKinds := by
  unfold execute
  split
  · exact .done _
  · exact c.perform_callsOnly

/-- Guests are turned away before anything is called. -/
theorem execute_of_guest {session : Session} (h : session.mode = .guest) {c : Command}
    {operation : String} (hc : c.Mutating operation) :
    c.execute session = .done (.error (.forbidden operation)) := by
  rw [execute, gate, writes?_eq_some_iff.mpr hc]
  simp only [Session.checkCanMutate, h]
  rfl

end Command

namespace Identity

variable {σ : Type} {handle : Handler σ} {s : σ} {t : Ticket}

/-- A session that opens with credentials is one of an administrator, and they were accepted. -/
theorem openSession_ok {username password : String} {session : Session}
    (h : ((openSession t (.credentials username password)).run handle s).1 = .ok session) :
    ((authenticate username password).run handle s).1 = .ok true ∧
      session = .administrator t (Text.trim username) := by
  rw [openSession, signInAs, Program.run_bind] at h
  generalize (authenticate username password).run handle s = after at h ⊢
  match hanswer : after.1 with
  | .error e => simp [hanswer] at h
  | .ok false => simp [hanswer] at h
  | .ok true =>
    rw [hanswer] at h
    exact ⟨rfl, (Except.ok.inj h).symm⟩

theorem restart_ok {current : Session} {username password : String} {session : Session}
    (h : ((restart t current username password).run handle s).1 = .ok session) :
    ((authenticate username password).run handle s).1 = .ok true := by
  rw [restart, Program.run_bind] at h
  cases hanswer : ((openSession t (.credentials username password)).run handle s).1 with
  | error e => simp [hanswer] at h
  | ok next => exact (openSession_ok hanswer).1

theorem restart_error {current : Session} {username password : String} {e : RestartError}
    (h : ((restart t current username password).run handle s).1 = .error e) :
    e.session = current := by
  rw [restart, Program.run_bind] at h
  cases hanswer : ((openSession t (.credentials username password)).run handle s).1 with
  | error cause =>
    rw [hanswer] at h
    exact congrArg RestartError.session (Except.error.inj h).symm
  | ok next => simp [hanswer] at h

end Identity

namespace Console

/-- What can be done at the console. Ending a session starts one for a guest. -/
inductive Action where
  | signIn (how : Identity.SignIn)
  | restart (username password : String)
  | finish
  | execute (c : Command)

/-- An action, with the identifier and the instant that it meets. -/
structure Turn where
  ticket : Ticket
  action : Action

/-- What a turn answers. A session that was opened stands in the world afterwards. -/
inductive Answer where
  | opened
  | refused (e : RegistryError)
  | finished (id : SessionId)
  | report (answer : Result Report)

def Answer.opens : Answer → Bool
  | .opened | .finished _ => true
  | .refused _ | .report _ => false

/-- The session in use, and the store behind its probe. -/
structure World where
  session : Session
  store : Probe Store

namespace World

def handler (t : Turn) : Handler (Probe Store) :=
  Probe.handle (Store.handle t.ticket.now)

/-- Takes over a session that was opened, or keeps its own. -/
def takeOver (w : World) : Result Session × Probe Store → Answer × World
  | (.ok session, store) => (.opened, ⟨session, store⟩)
  | (.error e, store) => (.refused e, ⟨w.session, store⟩)

/-- Goes on with the session that a restart leaves, which is handed back when it fails. -/
def goOn : Except Identity.RestartError Session × Probe Store → Answer × World
  | (.ok session, store) => (.opened, ⟨session, store⟩)
  | (.error e, store) => (.refused e.error, ⟨e.session, store⟩)

def step (w : World) (t : Turn) : Answer × World :=
  match t.action with
  | .signIn how => w.takeOver ((Identity.openSession t.ticket how).run (handler t) w.store)
  | .restart username password =>
    goOn ((Identity.restart t.ticket w.session username password).run (handler t) w.store)
  | .finish => (.finished w.session.finish, ⟨.guest t.ticket, w.store⟩)
  | .execute c =>
    let after := (c.execute w.session).run (handler t) w.store
    (.report after.1, ⟨w.session, after.2⟩)

def run (w : World) : List Turn → World
  | [] => w
  | t :: turns => (w.step t).2.run turns

/-- The last turn that put a session in place, with the world it met. -/
def lastOpening? (w : World) : List Turn → Option (World × Turn)
  | [] => none
  | t :: turns =>
    (w.step t).2.lastOpening? turns <|> if (w.step t).1.opens then some (w, t) else none

/-- The turn signs someone in, or restarts for someone, whose credentials are accepted. -/
def Authenticates (w : World) (t : Turn) : Prop :=
  ∃ username password,
    (t.action = .signIn (.credentials username password) ∨ t.action = .restart username password) ∧
      ((Identity.authenticate username password).run (handler t) w.store).1 = .ok true

def callKinds : Action → List StoreOp.Kind
  | .signIn _ | .restart .. => [.findAccount]
  | .finish => []
  | .execute c => c.callKinds

@[simp] theorem store_takeOver (w : World) (after : Result Session × Probe Store) :
    (w.takeOver after).2.store = after.2 := by
  obtain ⟨answer, store⟩ := after
  cases answer <;> rfl

@[simp] theorem store_goOn (after : Except Identity.RestartError Session × Probe Store) :
    (goOn after).2.store = after.2 := by
  obtain ⟨answer, store⟩ := after
  cases answer <;> rfl

theorem step_signIn (w : World) (ticket : Ticket) (how : Identity.SignIn) :
    w.step ⟨ticket, .signIn how⟩ =
      w.takeOver ((Identity.openSession ticket how).run
        (handler ⟨ticket, .signIn how⟩) w.store) := rfl

theorem step_restart (w : World) (ticket : Ticket) (username password : String) :
    w.step ⟨ticket, .restart username password⟩ =
      goOn ((Identity.restart ticket w.session username password).run
        (handler ⟨ticket, .restart username password⟩) w.store) := rfl

theorem step_execute_of_guest {w : World} (h : w.session.mode = .guest) (ticket : Ticket)
    {c : Command} {operation : String} (hc : c.Mutating operation) :
    w.step ⟨ticket, .execute c⟩ = (.report (.error (.forbidden operation)), w) := by
  show (Answer.report ((c.execute w.session).run _ w.store).1,
    World.mk w.session ((c.execute w.session).run _ w.store).2) = _
  rw [Command.execute_of_guest h hc]
  rfl

/-- A turn runs one program against the store. -/
theorem exists_program (w : World) (t : Turn) :
    ∃ (α : Type) (p : Program α), p.CallsOnly (callKinds t.action) ∧
      (w.step t).2.store = (p.run (handler t) w.store).2 := by
  obtain ⟨ticket, action⟩ := t
  cases action with
  | signIn how =>
    refine ⟨_, _, Identity.openSession_callsOnly ticket how, ?_⟩
    rw [step_signIn, store_takeOver]
  | restart username password =>
    refine ⟨_, _, Identity.restart_callsOnly ticket w.session username password, ?_⟩
    rw [step_restart, store_goOn]
  | finish => exact ⟨Unit, .done (), .done (), rfl⟩
  | execute c => exact ⟨_, _, c.execute_callsOnly w.session, rfl⟩

theorem accountPart_step (w : World) (t : Turn) :
    (w.step t).2.store.store.accountPart = w.store.store.accountPart := by
  obtain ⟨_, p, hp, hstore⟩ := w.exists_program t
  rw [hstore]
  refine hp.accountPart_run ?_ t.ticket.now w.store
  cases t.action with
  | execute c => exact c.callKinds_accounts
  | signIn | restart | finish => simp [callKinds, StoreOp.Kind.changesAccounts]

/-- Stations change in the turns in which an administrator's command writes. -/
theorem mutating_of_stationPart_ne {w : World} {t : Turn}
    (h : (w.step t).2.store.store.stationPart ≠ w.store.store.stationPart) :
    ∃ c operation, t.action = .execute c ∧ c.Mutating operation ∧
      w.session.mode = .administrator := by
  obtain ⟨_, p, hp, hstore⟩ := w.exists_program t
  have hwrites : ¬ ∀ k ∈ callKinds t.action, k.changesStations = false := by
    intro hkinds
    rw [hstore] at h
    exact h (hp.stationPart_run hkinds t.ticket.now w.store)
  obtain ⟨ticket, action⟩ := t
  -- the other actions make calls for accounts alone
  cases action with
  | signIn | restart | finish =>
    exact absurd (by simp [callKinds, StoreOp.Kind.changesStations]) hwrites
  | execute c =>
    cases hc : c.writes? with
    | none => exact absurd (Command.callKinds_stations hc) hwrites
    | some operation =>
      have hmutating := Command.writes?_eq_some_iff.mp hc
      refine ⟨c, operation, rfl, hmutating, ?_⟩
      cases hmode : w.session.mode with
      | administrator => rfl
      | guest =>
        rw [step_execute_of_guest hmode ticket hmutating] at h
        exact absurd rfl h

theorem takeOver_opens {w : World} {after : Result Session × Probe Store}
    (h : (w.takeOver after).1.opens = true) : after.1 = .ok (w.takeOver after).2.session := by
  obtain ⟨answer, store⟩ := after
  cases answer with
  | ok session => rfl
  | error e => cases h

theorem goOn_opens {after : Except Identity.RestartError Session × Probe Store}
    (h : (goOn after).1.opens = true) : after.1 = .ok (goOn after).2.session := by
  obtain ⟨answer, store⟩ := after
  cases answer with
  | ok session => rfl
  | error e => cases h

theorem session_takeOver_of_not_opens {w : World} {after : Result Session × Probe Store}
    (h : (w.takeOver after).1.opens = false) : (w.takeOver after).2.session = w.session := by
  obtain ⟨answer, store⟩ := after
  cases answer with
  | ok session => cases h
  | error e => rfl

theorem goOn_not_opens {after : Except Identity.RestartError Session × Probe Store}
    (h : (goOn after).1.opens = false) :
    ∃ e, after.1 = .error e ∧ (goOn after).2.session = e.session := by
  obtain ⟨answer, store⟩ := after
  cases answer with
  | ok session => cases h
  | error e => exact ⟨e, rfl, rfl⟩

/-- A turn that opens a session of an administrator has accepted credentials. -/
theorem authenticates_of_opens {w : World} {t : Turn} (hopens : (w.step t).1.opens = true)
    (h : (w.step t).2.session.mode = .administrator) : w.Authenticates t := by
  obtain ⟨ticket, action⟩ := t
  cases action with
  | signIn how =>
    cases how with
    | guest => cases h
    | credentials username password =>
      rw [step_signIn] at hopens
      have hok := takeOver_opens hopens
      exact ⟨username, password, .inl rfl, (Identity.openSession_ok hok).1⟩
  | restart username password =>
    rw [step_restart] at hopens
    have hok := goOn_opens hopens
    exact ⟨username, password, .inr rfl, Identity.restart_ok hok⟩
  | finish => cases h
  | execute c => cases hopens

/-- A turn that opens no session keeps the one in use. -/
theorem session_of_not_opens {w : World} {t : Turn} (h : (w.step t).1.opens = false) :
    (w.step t).2.session = w.session := by
  obtain ⟨ticket, action⟩ := t
  cases action with
  | signIn how =>
    rw [step_signIn] at h ⊢
    exact session_takeOver_of_not_opens h
  | restart username password =>
    rw [step_restart] at h ⊢
    obtain ⟨e, he, hsession⟩ := goOn_not_opens h
    rw [hsession, Identity.restart_error he]
  | finish => cases h
  | execute c => rfl

/-- Over a run: an administrator was one from the start, or the last opening let one in. -/
theorem authenticates_of_administrator {w : World} {turns : List Turn}
    (h : (w.run turns).session.mode = .administrator) :
    (∃ w' t, w.lastOpening? turns = some (w', t) ∧ w'.Authenticates t) ∨
      w.lastOpening? turns = none ∧ w.session.mode = .administrator := by
  induction turns generalizing w with
  | nil => exact .inr ⟨rfl, h⟩
  | cons t turns ih =>
    rcases ih h with ⟨w', t', hlast, hauthenticates⟩ | ⟨hlast, hmode⟩
    · refine .inl ⟨w', t', ?_, hauthenticates⟩
      rw [lastOpening?, hlast]
      rfl
    · cases hopens : (w.step t).1.opens with
      | true =>
        refine .inl ⟨w, t, ?_, authenticates_of_opens hopens hmode⟩
        simp [lastOpening?, hlast, hopens]
      | false =>
        refine .inr ⟨?_, session_of_not_opens hopens ▸ hmode⟩
        simp [lastOpening?, hlast, hopens]

end World

/-- From a guest's session on, whatever has been done and whatever the store holds and refuses:
stations change only by an administrator's commands that write, an administrator is someone whom
the last opening let in, guests are refused every such command without a call and make no calls
that write, and accounts never change. -/
theorem access_gate (ticket : Ticket) (store : Probe Store) (turns : List Turn) (t : Turn) :
    let start : World := ⟨.guest ticket, store⟩
    let w := start.run turns
    let after := w.step t
    (after.2.store.store.stationPart ≠ w.store.store.stationPart →
        ∃ c operation, t.action = .execute c ∧ c.Mutating operation ∧
          w.session.mode = .administrator) ∧
      (w.session.mode = .administrator →
        ∃ w' t', start.lastOpening? turns = some (w', t') ∧ w'.Authenticates t') ∧
      (w.session.mode = .guest → ∀ c, t.action = .execute c →
        (∀ operation, c.Mutating operation →
          after = (.report (.error (.forbidden operation)), w) ∧
            ∀ form, (Outcome.ofResult form (.error (.forbidden operation))).printed = "") ∧
        ((∀ operation, ¬ c.Mutating operation) →
          ∃ noted, after.2.store.calls = w.store.calls ++ noted ∧
            ∀ k ∈ noted, k.writes = false)) ∧
      after.2.store.store.accountPart = w.store.store.accountPart := by
  intro start w after
  refine ⟨World.mutating_of_stationPart_ne, fun hmode => ?_, fun hguest c hc => ⟨?_, ?_⟩,
    w.accountPart_step t⟩
  · rcases World.authenticates_of_administrator hmode with hlast | ⟨_, hstart⟩
    · exact hlast
    · cases hstart
  · intro operation hmutating
    obtain ⟨ticket', action⟩ := t
    cases hc
    exact ⟨World.step_execute_of_guest hguest ticket' hmutating, fun _ => rfl⟩
  · intro hreads
    have hwrites : c.writes? = none := by
      rw [Option.eq_none_iff_forall_ne_some]
      exact fun operation hoperation => hreads operation (Command.writes?_eq_some_iff.mp hoperation)
    obtain ⟨_, p, hp, hstore⟩ := w.exists_program t
    obtain ⟨noted, hcalls, hnoted⟩ := Probe.calls_run (Store.handle t.ticket.now) hp w.store
    rw [hc] at hnoted
    refine ⟨noted, ?_, fun k hk => Command.callKinds_read hwrites k (hnoted k hk)⟩
    show (w.step t).2.store.calls = _
    rw [hstore]
    exact hcalls

end Console

end ChargingRegister
