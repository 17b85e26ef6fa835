import ChargingRegister.Proofs.Identity.Credentials

/-!
# Restarting a session

A restart asks once for the account. It opens the session of an administrator when the password
belongs to the hash of that account, and hands the session in use back in every other case, with
the refusal of the credentials or the failure of the store. A session keeps the identifier that it
was opened with, so one that is opened later has another.
-/
namespace ChargingRegister

namespace StoreOp

/-- The failures with which the search for an account ends. -/
def accountFailure (cause : String) : RegistryError :=
  .storageFailure (Kind.name .findAccount) cause

end StoreOp

theorem Store.error_of_findAccount {now : Instant} {username : String} {s : Store}
    {e : RegistryError} (h : (handle now (.findAccount username) s).1 = .error e) :
    ∃ cause, e = StoreOp.accountFailure cause := by
  cases s with
  | memory m => cases h
  | database db =>
    obtain ⟨t, u⟩ := db
    cases u with
    | none => exact ⟨_, (Except.error.inj h).symm⟩
    | some u => cases h

theorem Probe.error_of_findAccount {now : Instant} {username : String} {w : Probe Store}
    {e : RegistryError} (h : (handle (Store.handle now) (.findAccount username) w).1 = .error e) :
    ∃ cause, e = StoreOp.accountFailure cause := by
  by_cases hrefused : StoreOp.Kind.findAccount ∈ w.failing
  · rw [handle_of_mem hrefused] at h
    exact ⟨w.cause, (Except.error.inj h).symm⟩
  · rw [handle_of_notMem hrefused] at h
    exact Store.error_of_findAccount h

/-- Calls that only read leave the store behind a probe alone. -/
theorem Program.CallsOnly.store_run {α : Type} {kinds : List StoreOp.Kind} {p : Program α}
    (hp : p.CallsOnly kinds) (hkinds : ∀ k ∈ kinds, k.writes = false) (now : Instant)
    (w : Probe Store) :
    (p.run (Probe.handle (Store.handle now)) w).2.store = w.store := by
  refine hp.run_preserves Probe.store (fun op v hop => ?_) w
  by_cases hrefused : op.kind ∈ v.failing
  · rw [Probe.handle_of_mem hrefused]
  · rw [Probe.handle_of_notMem hrefused, Store.handle_of_reads (hkinds _ hop)]

namespace Identity

section

variable {σ : Type} {handle : Handler σ} {s : σ} {username password : String}

theorem authenticate_of_not_given (h : ¬ Given username password) :
    authenticate username password = .done (.ok false) := by
  rw [Given, ← Bool.or_eq_false_iff, Bool.not_eq_false] at h
  exact if_pos h

/-- What the search for an account says about a password. -/
def verdict (password : String) (found : Except RegistryError (Option Account)) : Result Bool :=
  found.map (·.any (accepts · password))

theorem run_authenticate_of_given (h : Given username password) :
    (authenticate username password).run handle s =
      let lookup := handle (.findAccount (Text.trim username)) s
      (verdict password lookup.1, lookup.2) := by
  rw [authenticate, if_neg h.not_empty, Program.run_call]
  generalize handle (.findAccount (Text.trim username)) s = lookup
  obtain ⟨e | _ | account, s'⟩ := lookup <;> rfl

/-- Nothing but the search for the account can fail. -/
theorem lookup_of_error {e : RegistryError}
    (h : ((authenticate username password).run handle s).1 = .error e) :
    (handle (.findAccount (Text.trim username)) s).1 = .error e := by
  by_cases hgiven : Given username password
  · rw [run_authenticate_of_given hgiven] at h
    generalize handle (.findAccount (Text.trim username)) s = lookup at h
    obtain ⟨e' | found, s'⟩ := lookup <;> cases h
    rfl
  · rw [authenticate_of_not_given hgiven] at h
    cases h

theorem fst_run_authenticate_of_found (h : Given username password) {account : Account}
    (hfound : (handle (.findAccount (Text.trim username)) s).1 = .ok (some account)) :
    ((authenticate username password).run handle s).1 = .ok (accepts account password) := by
  rw [run_authenticate_of_given h]
  exact congrArg (verdict password) hfound

/-- A hash that cannot be read belongs to no password. -/
theorem fst_run_authenticate_of_unreadable {account : Account}
    (hfound : (handle (.findAccount (Text.trim username)) s).1 = .ok (some account))
    {e : Bcrypt.HashError} (hhash : Bcrypt.verify password account.passwordHash = .error e) :
    ((authenticate username password).run handle s).1 = .ok false := by
  by_cases hgiven : Given username password
  · rw [fst_run_authenticate_of_found hgiven hfound, accepts, hhash]
  · rw [authenticate_of_not_given hgiven]
    rfl

theorem accepts_hash (id : Int) (username : String) (salt : Bcrypt.Salt) (password : String) :
    accepts ⟨id, username, Bcrypt.hash salt password⟩ password = true := by
  rw [accepts, Bcrypt.verify_hash, beq_self_eq_true]

/-- The outcome of a restart, by the verdict about the credentials. -/
def restarted (t : Ticket) (current : Session) (username : String) :
    Result Bool → Except RestartError Session
  | .ok true => .ok (.administrator t (Text.trim username))
  | .ok false => .error ⟨current, invalidCredentials⟩
  | .error e => .error ⟨current, e⟩

theorem restarted_eq_ok_iff {t : Ticket} {current next : Session} {answer : Result Bool} :
    restarted t current username answer = .ok next ↔
      answer = .ok true ∧ next = .administrator t (Text.trim username) := by
  rcases answer with e | _ | _
  · exact ⟨nofun, nofun⟩
  · exact ⟨nofun, nofun⟩
  · exact ⟨fun h => ⟨rfl, (Except.ok.inj h).symm⟩, fun h => congrArg Except.ok h.2.symm⟩

theorem restarted_eq_error_iff {t : Ticket} {current : Session} {answer : Result Bool}
    {e : RestartError} :
    restarted t current username answer = .error e ↔
      e.session = current ∧
        (answer = .ok false ∧ e.error = invalidCredentials ∨ answer = .error e.error) := by
  obtain ⟨session, error⟩ := e
  rcases answer with e | _ | _ <;> simp [restarted, eq_comm]

theorem restart_of_not_given (h : ¬ Given username password) (t : Ticket) (current : Session) :
    restart t current username password = .done (.error ⟨current, invalidCredentials⟩) := by
  rw [restart, openSession, signInAs, authenticate_of_not_given h]
  rfl

theorem store_run_restart (t : Ticket) (current : Session) (username password : String)
    (now : Instant) (w : Probe Store) :
    ((restart t current username password).run (Probe.handle (Store.handle now)) w).2.store =
      w.store :=
  (restart_callsOnly t current username password).store_run (by decide) now w

theorem fst_run_restart (t : Ticket) (current : Session) :
    ((restart t current username password).run handle s).1 =
      restarted t current username ((authenticate username password).run handle s).1 := by
  rw [restart, openSession, signInAs, Program.run_bind, Program.run_bind]
  generalize (authenticate username password).run handle s = after
  obtain ⟨e | _ | _, s'⟩ := after <;> rfl

end

end Identity

namespace Console.World

theorem id_of_openSession {t : Ticket} {how : Identity.SignIn} {σ : Type} {handle : Handler σ}
    {s : σ} {session : Session}
    (h : ((Identity.openSession t how).run handle s).1 = .ok session) : session.id = t.id := by
  cases how with
  | guest => exact congrArg Session.id (Except.ok.inj h).symm
  | credentials username password => exact congrArg Session.id (Identity.openSession_ok h).2

theorem id_session_step (w : World) (t : Turn) :
    (w.step t).2.session.id = w.session.id ∨ (w.step t).2.session.id = t.ticket.id := by
  cases hopens : (w.step t).1.opens with
  | false => exact .inl (congrArg Session.id (session_of_not_opens hopens))
  | true =>
    refine .inr ?_
    obtain ⟨ticket, action⟩ := t
    cases action with
    | signIn how =>
      rw [step_signIn] at hopens ⊢
      exact id_of_openSession (takeOver_opens hopens)
    | restart username password =>
      rw [step_restart] at hopens ⊢
      have hok := goOn_opens hopens
      rw [Identity.fst_run_restart] at hok
      exact congrArg Session.id (Identity.restarted_eq_ok_iff.mp hok).2
    | finish => rfl
    | execute c => cases hopens

/-- Every session of a run has the identifier of the first one or one from a ticket of the run. -/
theorem id_session_run (w : World) (turns : List Turn) :
    (w.run turns).session.id ∈ w.session.id :: turns.map (·.ticket.id) := by
  induction turns generalizing w with
  | nil => exact List.mem_singleton_self _
  | cons t turns ih =>
    rcases List.mem_cons.mp (ih (w.step t).2) with hlast | hlater
    · rcases w.id_session_step t with hkept | hopened
      · exact List.mem_cons.mpr (.inl (hlast.trans hkept))
      · exact List.mem_cons_of_mem _ (List.mem_cons.mpr (.inl (hlast.trans hopened)))
    · exact List.mem_cons_of_mem _ (List.mem_cons_of_mem _ hlater)

/-- Where no identifier is given out twice, a ticket has none that a session of the run has. -/
theorem id_session_run_ne {w : World} {turns : List Turn} {t : Ticket}
    (h : (w.session.id :: turns.map (·.ticket.id) ++ [t.id]).Nodup) :
    t.id ≠ (w.run turns).session.id := by
  intro heq
  have hused := w.id_session_run turns
  rw [← heq] at hused
  exact (List.nodup_append.mp h).2.2 _ hused _ (List.mem_singleton_self _) rfl

end Console.World

namespace Identity

open Console (World Turn)

/-- At any point of a run, from any session and any store that fails as it likes: a restart opens
the session of an administrator just when the credentials are accepted. Otherwise it hands back the
session in use, with the refusal of the credentials, be it for a hash that cannot be read, or with
the failure of the store. It changes nothing in the store, and does not call it when the name is
blank or the password empty. -/
theorem restart_all_or_nothing (start : World) (turns : List Turn) (t : Ticket)
    (username password : String) :
    let w := start.run turns
    let current := w.session
    let handle := Probe.handle (Store.handle t.now)
    let lookup := handle (.findAccount (Text.trim username)) w.store
    let answer := ((authenticate username password).run handle w.store).1
    let after := (restart t current username password).run handle w.store
    ((∃ next, after.1 = .ok next) ↔ answer = .ok true) ∧
      (∀ next, after.1 = .ok next →
        next.mode = .administrator ∧ next.username = some (Text.trim username) ∧
          ((start.session.id :: turns.map (·.ticket.id) ++ [t.id]).Nodup →
            next.id ≠ current.id)) ∧
      (∀ e, after.1 = .error e → e.session = current ∧
        (answer = .ok false ∧ e.error = .unauthorized "Invalid credentials" ∨
          ∃ cause, e.error = .storageFailure "find_user_by_username" cause ∧
            answer = .error e.error ∧ lookup.1 = .error e.error)) ∧
      (∀ account, lookup.1 = .ok (some account) →
        ∀ flaw, Bcrypt.verify password account.passwordHash = .error flaw →
          after.1 = .error ⟨current, .unauthorized "Invalid credentials"⟩) ∧
      after.2.store = w.store.store ∧
      (Text.blank username = true ∨ password.isEmpty = true → after.2 = w.store) := by
  intro w current handle lookup answer after
  have hafter : after.1 = restarted t current username answer := fst_run_restart t current
  have hstore := store_run_restart t current username password t.now w.store
  refine ⟨?_, fun next hnext => ?_, fun e he => ?_, fun account hfound flaw hflaw => ?_, ?_,
    fun hempty => ?_⟩
  · rw [hafter]
    simp only [restarted_eq_ok_iff, exists_and_left, exists_eq, and_true]
  · obtain ⟨-, rfl⟩ := restarted_eq_ok_iff.mp (hafter ▸ hnext)
    exact ⟨rfl, rfl, World.id_session_run_ne⟩
  · obtain ⟨hsession, hrefused | hfailed⟩ := restarted_eq_error_iff.mp (hafter ▸ he)
    · exact ⟨hsession, .inl hrefused⟩
    · have hlookup : lookup.1 = .error e.error := lookup_of_error hfailed
      obtain ⟨cause, hcause⟩ := Probe.error_of_findAccount hlookup
      exact ⟨hsession, .inr ⟨cause, hcause, hfailed, hlookup⟩⟩
  · have hrefused : answer = .ok false := fst_run_authenticate_of_unreadable hfound hflaw
    rw [hafter, hrefused]
    rfl
  · subst after handle
    exact hstore
  · have hgiven : ¬ Given username password := by
      rintro ⟨hname, hpassword⟩
      simp [hname, hpassword] at hempty
    show ((restart t current username password).run handle w.store).2 = w.store
    rw [restart_of_not_given hgiven]
    rfl

/-- A guest whose session has just taken the place of another signs in. -/
theorem restart_all_or_nothing_after_finish :
    let salt : Bcrypt.Salt := .replicate 16 7
    let ticket (n : Nat) : Ticket := ⟨.ofRandom n, .ofEpoch n 0⟩
    let account : Account := ⟨1, "root", Bcrypt.hash salt "ab"⟩
    let m : MemoryStore := { MemoryStore.empty with accounts := [account] }
    let start : World := ⟨.guest (ticket 0), ⟨.memory m, [.findAll], "down", []⟩⟩
    let w := start.run [⟨ticket 1, .finish⟩]
    ∃ next, ((restart (ticket 2) w.session " root" "ab").run
        (Probe.handle (Store.handle (ticket 2).now)) w.store).1 = .ok next ∧
      next.mode = .administrator ∧ next.username = some "root" ∧ next.id ≠ w.session.id := by
  intro salt ticket
  have haccepts := accepts_hash 1 "root" salt "ab"
  -- nothing is to be computed from the hash
  generalize Bcrypt.hash salt "ab" = hash at haccepts ⊢
  intro account m start w
  have hgiven : Given " root" "ab" := by decide +kernel
  have hname : Text.trim " root" = "root" := by decide +kernel
  have hids : [SessionId.ofRandom 0, .ofRandom 1, .ofRandom 2].Nodup := by decide +kernel
  have hfound : (Probe.handle (Store.handle (ticket 2).now) (.findAccount (Text.trim " root"))
      w.store).1 = .ok (some account) := by
    have hserved : StoreOp.Kind.findAccount ∉ w.store.failing := by
      show StoreOp.Kind.findAccount ∉ [StoreOp.Kind.findAll]
      decide
    have hmatch : m.accounts.find? (·.username == "root") = some account := by
      rw [List.find?_singleton, beq_self_eq_true, if_pos rfl]
    rw [Probe.handle_of_notMem hserved, hname]
    exact congrArg Except.ok hmatch
  obtain ⟨hopens, hnext, _⟩ :=
    restart_all_or_nothing start [⟨ticket 1, .finish⟩] (ticket 2) " root" "ab"
  obtain ⟨next, hok⟩ := hopens.mpr (haccepts ▸ fst_run_authenticate_of_found hgiven hfound)
  obtain ⟨hmode, husername, hid⟩ := hnext next hok
  exact ⟨next, hok, hmode, hname ▸ husername, hid hids⟩

end Identity

end ChargingRegister
