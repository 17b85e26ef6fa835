import ChargingRegister.Proofs.Console.Seeding
import ChargingRegister.Proofs.Password.Hash
import ChargingRegister.Proofs.Store.View

/-!
# The credentials of the first administrator

A store in which nobody has an account takes in the first administrator that is ensured. No call
but the creation of an account touches what it keeps of accounts, so however long it serves, the
name and the password of that administrator are accepted, and nobody else is put in.
-/
namespace ChargingRegister

theorem MemoryStore.nextAccount_handle {m : MemoryStore}
    (h : m.accounts = [] → m.nextAccount = 1) (now : Instant) (op : StoreOp) :
    (handle now op m).2.accounts = [] → (handle now op m).2.nextAccount = 1 := by
  cases op with
  | createAccount username passwordHash =>
    simp only [handle]
    split
    · exact h
    · intro hempty
      cases List.append_ne_nil_of_right_ne_nil _ (List.cons_ne_nil _ _) hempty
  | _ => exact h

namespace Store

/-- Nobody has an account, and there is room for the first. -/
structure Unclaimed (s : Store) : Prop where
  migrated : s.Migrated
  nobody : s.view.accounts = []
  room : s.isDatabase = true → s.view.nextAccount ≤ Table.maxNumber

structure HeldBy (a : Account) (s : Store) : Prop where
  migrated : s.Migrated
  only : s.view.accounts = [a]

variable {s s' : Store}

theorem accounts_of_accountPart (h : s'.accountPart = s.accountPart) :
    s'.view.accounts = s.view.accounts := by
  cases s' <;> cases s
  case memory.memory => exact congrArg Prod.fst (Sum.inl.inj h)
  case database.database =>
    exact congrArg (fun t? => (t?.getD Table.empty).rows) (Sum.inr.inj h)
  case memory.database | database.memory => cases h

theorem HeldBy.handle {a : Account} (h : s.HeldBy a) {op : StoreOp}
    (hop : op.kind.changesAccounts = false) (now : Instant) :
    (Store.handle now op s).2.HeldBy a where
  migrated := migrated_handle h.migrated op now
  only := (accounts_of_accountPart (accountPart_handle hop now s)).trans h.only

theorem HeldBy.runCalls {a : Account} (h : s.HeldBy a) {ops : List StoreOp}
    (hops : ∀ op ∈ ops, op.kind.changesAccounts = false) (clock : Clock) :
    (runCalls Store.handle clock ops s).2.HeldBy a :=
  runCalls_preserves Store.handle (fun op hop now _ hs => hs.handle (hops op hop) now) clock h

theorem IsNew.unclaimed {start : Store} (h : start.IsNew) : start.Unclaimed := by
  rcases h with rfl | rfl
  · exact ⟨trivial, rfl, elim_isDatabase_memory⟩
  · exact ⟨Database.holds_fresh _, rfl, fun _ => by decide⟩

/-- A store that operations can produce is unclaimed as long as it has no accounts. -/
theorem unclaimed_runCalls {start : Store} (hstart : start.IsNew) (clock : Clock)
    {ops : List StoreOp} (h : (runCalls handle clock ops start).2.view.accounts = []) :
    (runCalls handle clock ops start).2.Unclaimed := by
  have hmigrated : (runCalls handle clock ops start).2.Migrated :=
    runCalls_preserves (P := Migrated) handle
      (fun op _ now s hs => migrated_handle hs op now) clock hstart.unclaimed.migrated
  -- accounts stay, so where there are none no number has been given out
  have hnext : (runCalls handle clock ops start).2.view.accounts = [] →
      (runCalls handle clock ops start).2.view.nextAccount = 1 := by
    refine runCalls_preserves
      (P := fun s : Store => s.view.accounts = [] → s.view.nextAccount = 1) handle ?_ clock ?_
    · intro op _ now s hs
      cases s with
      | memory m => exact MemoryStore.nextAccount_handle hs now op
      | database db =>
        rcases Database.view_handle now op db with heq | heq
        · simpa only [view, handle, heq] using hs
        · simpa only [view, handle, heq] using MemoryStore.nextAccount_handle hs now op
    · rcases hstart with rfl | rfl <;> exact fun _ => rfl
  refine ⟨hmigrated, h, fun _ => ?_⟩
  rw [hnext h]
  decide

theorem handle_findAccount (h : s.Migrated) (username : String) (now : Instant) :
    handle now (.findAccount username) s =
      (.ok (s.view.accounts.find? (·.username == username)), s) := by
  cases s with
  | memory m => rfl
  | database db =>
    obtain ⟨t, u, rfl, -⟩ := h
    rfl

theorem handle_countAccounts (h : s.Migrated) (now : Instant) :
    handle now .countAccounts s = (.ok s.view.accounts.length, s) := by
  cases s with
  | memory m => rfl
  | database db =>
    obtain ⟨t, u, rfl, -⟩ := h
    rfl

theorem Unclaimed.handle_createAccount (h : s.Unclaimed) (username passwordHash : String)
    (now : Instant) :
    let a : Account := ⟨s.view.nextAccount, username, passwordHash⟩
    (handle now (.createAccount username passwordHash) s).1 = .ok a ∧
      (handle now (.createAccount username passwordHash) s).2.HeldBy a := by
  intro a
  have hmigrated := migrated_handle h.migrated (.createAccount username passwordHash) now
  obtain ⟨hstore, hnobody, hroom⟩ := h
  cases s with
  | memory m =>
    have hnobody : m.accounts = [] := hnobody
    have hfree : ¬ m.accounts.any (·.username == username) = true := by simp [hnobody]
    refine ⟨?_, hmigrated, ?_⟩
    · simp only [handle, MemoryStore.handle, if_neg hfree]
      rfl
    · simp only [handle, MemoryStore.handle, view, hnobody]
      rfl
  | database db =>
    obtain ⟨t, u, rfl, -⟩ := hstore
    have hnobody : u.rows = [] := hnobody
    have hlt : u.highest < Table.maxNumber := hroom rfl
    have hfree : ¬ u.rows.any (·.username == username) = true := by simp [hnobody]
    refine ⟨?_, hmigrated, ?_⟩
    · simp only [handle, Database.handle, Database.onAccounts, Database.insertAccount_of_lt hlt,
        if_neg hfree]
      rfl
    · simp only [handle, Database.handle, Database.onAccounts, Database.insertAccount_of_lt hlt,
        view, Database.view, hnobody]
      rfl

end Store

namespace Identity

variable {s : Store} {username password : String}

/-- Whoever gives credentials is let in with those of an account. -/
theorem run_authenticate (hs : s.Migrated) (h : Given username password) (now : Instant) :
    (authenticate username password).run (Store.handle now) s =
      (.ok ((s.view.accounts.find? (·.username == Text.trim username)).any
        (accepts · password)), s) := by
  rw [authenticate, if_neg h.not_empty, Program.run_call, Store.handle_findAccount hs]
  cases s.view.accounts.find? (·.username == Text.trim username) <;> rfl

theorem run_openSession {σ : Type} {handle : Handler σ} {s s' : σ}
    (h : (authenticate username password).run handle s = (.ok true, s')) (t : Ticket) :
    (openSession t (.credentials username password)).run handle s =
      (.ok (.administrator t (Text.trim username)), s') := by
  rw [openSession, signInAs, Program.run_bind, h]
  rfl

/-- An administrator is ensured already where anybody has an account. -/
theorem run_ensureAdministrator_of_held {a : Account} (hs : s.HeldBy a) (salt : Bcrypt.Salt)
    (h : Given username password) (now : Instant) :
    (ensureAdministrator salt username password).run (Store.handle now) s = (.ok false, s) := by
  rw [ensureAdministrator, if_neg h.not_empty, Program.run_call,
    Store.handle_countAccounts hs.migrated, hs.only]
  rfl

theorem run_ensureAdministrator_of_unclaimed (hs : s.Unclaimed) (salt : Bcrypt.Salt)
    (h : Given username password) (now : Instant) :
    let after := (ensureAdministrator salt username password).run (Store.handle now) s
    after.1 = .ok true ∧ after.2.HeldBy
      ⟨s.view.nextAccount, Text.trim username, Bcrypt.hash salt password⟩ := by
  obtain ⟨hcreated, hheld⟩ := hs.handle_createAccount (Text.trim username)
    (Bcrypt.hash salt password) now
  rw [ensureAdministrator, if_neg h.not_empty, Program.run_call,
    Store.handle_countAccounts hs.migrated, hs.nobody]
  simp only [List.length_nil, Program.run_call, hcreated]
  exact ⟨rfl, hheld⟩

/-- Only the digests decide about the password of the one account. -/
theorem run_authenticate_of_held {id : Int} {salt : Bcrypt.Salt} {name other : String}
    (hs : s.HeldBy ⟨id, Text.trim username, Bcrypt.hash salt password⟩)
    (hname : Text.trim name = Text.trim username) (h : Given name other) (now : Instant) :
    (authenticate name other).run (Store.handle now) s =
      (.ok (Bcrypt.digestOf salt other == Bcrypt.digestOf salt password), s) := by
  rw [run_authenticate hs.migrated h, hs.only, hname, List.find?_singleton, beq_self_eq_true,
    if_pos rfl, Option.any_some, accepts, Bcrypt.verify_hash]

theorem given_of_trim_eq {name : String} (h : Given username password)
    (hname : Text.trim name = Text.trim username) : Given name password :=
  ⟨(congrArg (·.toList.isEmpty) hname).trans h.1, h.2⟩

/-- However long the store serves other calls afterwards: the administrator that was ensured is the
only account, anyone who gives that name, with any blanks around it, and that password is let in
and gets an administrator's session, and nobody else is put in. -/
theorem seeded_credentials_work (hs : s.Unclaimed) (salt : Bcrypt.Salt)
    (h : Given username password) (now : Instant) :
    let seeded := (ensureAdministrator salt username password).run (Store.handle now) s
    seeded.1 = .ok true ∧
      ∃ id, ∀ (clock : Clock) (ops : List StoreOp),
        (∀ op ∈ ops, op.kind.changesAccounts = false) →
        let later := (runCalls Store.handle clock ops seeded.2).2
        later.view.accounts = [⟨id, Text.trim username, Bcrypt.hash salt password⟩] ∧
          (∀ name, Text.trim name = Text.trim username → ∀ now₁,
            (authenticate name password).run (Store.handle now₁) later = (.ok true, later) ∧
              ∀ t, (openSession t (.credentials name password)).run (Store.handle now₁) later =
                (.ok (.administrator t (Text.trim username)), later)) ∧
          ∀ salt₁ username₁ password₁, Given username₁ password₁ → ∀ now₁,
            (ensureAdministrator salt₁ username₁ password₁).run (Store.handle now₁) later =
              (.ok false, later) := by
  intro seeded
  obtain ⟨hcreated, hheld⟩ := run_ensureAdministrator_of_unclaimed hs salt h now
  refine ⟨hcreated, s.view.nextAccount, fun clock ops hops => ?_⟩
  have hlater := hheld.runCalls hops clock
  refine ⟨hlater.only, fun name hname now₁ => ?_,
    fun salt₁ _ _ h₁ now₁ => run_ensureAdministrator_of_held hlater salt₁ h₁ now₁⟩
  have hauthentic := run_authenticate_of_held hlater hname (given_of_trim_eq h hname) now₁
  rw [beq_self_eq_true] at hauthentic
  refine ⟨hauthentic, fun t => ?_⟩
  rw [run_openSession hauthentic, hname]

/-- A password of one zero character, in a database that has been in use and stays so. -/
theorem seeded_credentials_work_with_blanks :
    let clock : Clock := fun n => .ofEpoch n 0
    let salt : Bcrypt.Salt := .replicate 16 7
    let s := (runCalls Store.handle clock [.insert (.draft "a" none .available)]
      (.database .fresh)).2
    let seeded := (ensureAdministrator salt " root\t" "\x00").run (Store.handle (clock 1)) s
    let later := (runCalls Store.handle clock [.delete 1] seeded.2).2
    seeded.1 = .ok true ∧
      ((authenticate "root  " "\x00").run (Store.handle (clock 3)) later).1 = .ok true ∧
      ((ensureAdministrator salt "other" "a").run (Store.handle (clock 4)) later).1 =
        .ok false := by
  intro clock salt s seeded later
  have hs : s.Unclaimed := Store.unclaimed_runCalls (.inr rfl) clock rfl
  have hgiven : Given " root\t" "\x00" := by decide +kernel
  have hname : Text.trim "root  " = Text.trim " root\t" := by decide +kernel
  obtain ⟨hcreated, _, hserved⟩ := seeded_credentials_work hs salt hgiven (clock 1)
  obtain ⟨_, haccepts, hensured⟩ := hserved clock [.delete 1] fun op hop => by
    rw [List.mem_singleton.mp hop]
    rfl
  have hother : Given "other" "a" := by decide +kernel
  exact ⟨hcreated, congrArg Prod.fst (haccepts "root  " hname (clock 3)).1,
    congrArg Prod.fst (hensured salt "other" "a" hother (clock 4))⟩

end Identity

end ChargingRegister
