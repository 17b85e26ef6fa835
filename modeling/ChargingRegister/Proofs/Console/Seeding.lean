import ChargingRegister.Proofs.Console.Check
import ChargingRegister.Proofs.Console.Gate
import ChargingRegister.Proofs.Store.Accounts

/-!
# The first administrator of a database file

One console after another is launched, each with a configuration, a command and credentials of its
own, and some of them work on one file. The first that finds the table of accounts there, can write
to it and has an administrator to name puts that account in, and nothing changes it from then on.
-/
namespace ChargingRegister

/-- An administrator's account is put into a table that holds none. -/
def Table.seeded (t : Table Account) (username passwordHash : String) : Table Account :=
  if t.rows = [] then (Database.insertAccount username passwordHash t).2 else t

namespace Table

variable {t : Table Account}

theorem seeded_of_ne_nil (h : t.rows ≠ []) (username passwordHash : String) :
    t.seeded username passwordHash = t :=
  if_neg h

theorem rows_seeded (h : t.rows = []) (hroom : t.highest < maxNumber)
    (username passwordHash : String) :
    (t.seeded username passwordHash).rows = [⟨t.highest + 1, username, passwordHash⟩] := by
  have hfree : ¬ t.rows.any (·.username == username) = true := by
    rw [h]
    exact Bool.false_ne_true
  have hnumber : t.nextNumber? = some (t.highest + 1) := if_pos hroom
  rw [seeded, if_pos h, Database.insertAccount, if_neg hfree, hnumber]
  show t.rows ++ _ = _
  rw [h]
  rfl

end Table

namespace Identity

/-- A username and a password with which the first administrator can be created. -/
def Given (username password : String) : Prop :=
  Text.blank username = false ∧ password.isEmpty = false

instance (username password : String) : Decidable (Given username password) :=
  inferInstanceAs (Decidable (_ ∧ _))

theorem Given.not_empty {username password : String} (h : Given username password) :
    ¬ (Text.blank username || password.isEmpty) = true := by
  rw [h.1, h.2]
  exact Bool.false_ne_true

variable {o : OpenDatabase}

/-- The first administrator is all that ensuring it can add to the accounts. -/
theorem accountTable_ensureAdministrator (salt : Bcrypt.Salt) (username password : String)
    (now : Instant) (o : OpenDatabase) :
    ((ensureAdministrator salt username password).run (OpenDatabase.handle now) o).2.accountTable =
      if Given username password ∧ o.obstacle = none ∧ o.accounts?.isSome then
        o.accountTable.seeded (Text.trim username) (Bcrypt.hash salt password)
      else o.accountTable := by
  by_cases hgiven : Given username password
  case neg =>
    have hempty : (Text.blank username || password.isEmpty) = true := by
      rw [Given, ← Bool.or_eq_false_iff, Bool.not_eq_false] at hgiven
      exact hgiven
    rw [ensureAdministrator, if_pos hempty, if_neg fun h => hgiven h.1]
    rfl
  rw [ensureAdministrator, if_neg hgiven.not_empty, Program.run_call]
  cases haccounts : o.accounts? with
  | none =>
    obtain ⟨e, he⟩ := OpenDatabase.handle_countAccounts_of_none haccounts now
    rw [he, if_neg fun h => Bool.false_ne_true h.2.2]
    rfl
  | some t =>
    rw [OpenDatabase.handle_countAccounts haccounts]
    have htable : o.accountTable = t := OpenDatabase.accountTable_of_some haccounts
    cases hrows : t.rows with
    | cons a rows =>
      have hfull : t.rows ≠ [] := hrows ▸ List.cons_ne_nil a rows
      rw [htable, Table.seeded_of_ne_nil hfull, ite_self]
      exact htable
    | nil =>
      have hcreated := OpenDatabase.accountTable_createAccount haccounts (Text.trim username)
        (Bcrypt.hash salt password) now
      -- the answer to the creation is dropped; only what it leaves behind counts
      refine Eq.trans (congrArg OpenDatabase.accountTable (Program.snd_run_call_of_done ?_ o)) ?_
      · rintro (e | a) <;> exact ⟨_, rfl⟩
      · rw [hcreated, htable, Table.seeded, if_pos hrows]
        simp only [hgiven, Option.isSome_some, and_true, true_and]

theorem accepts_iff {a : Account} {password : String} :
    accepts a password = true ↔ Bcrypt.verify password a.passwordHash = .ok true := by
  rw [accepts]
  cases Bcrypt.verify password a.passwordHash with
  | error e => exact ⟨nofun, nofun⟩
  | ok valid => exact ⟨congrArg _, Except.ok.inj⟩

theorem authenticate_ok {username password : String} {now : Instant}
    (h : ((authenticate username password).run (OpenDatabase.handle now) o).1 = .ok true) :
    ∃ a ∈ o.accountTable.rows, Text.trim username = a.username ∧
      Bcrypt.verify password a.passwordHash = .ok true := by
  rw [authenticate] at h
  split at h
  · cases h
  · rw [Program.run_call] at h
    cases haccounts : o.accounts? with
    | none =>
      obtain ⟨e, he⟩ := OpenDatabase.handle_findAccount_of_none haccounts (Text.trim username) now
      rw [he] at h
      cases h
    | some t =>
      rw [OpenDatabase.handle_findAccount haccounts] at h
      cases hfound : t.rows.find? (·.username == Text.trim username) with
      | none =>
        rw [hfound] at h
        cases h
      | some a =>
        rw [hfound] at h
        have haccepts : accepts a password = true := Except.ok.inj h
        have hname : a.username = Text.trim username := by
          simpa using List.find?_some hfound
        refine ⟨a, ?_, hname.symm, accepts_iff.mp haccepts⟩
        rw [OpenDatabase.accountTable_of_some haccounts]
        exact List.mem_of_find?_eq_some hfound

end Identity

namespace Console

namespace Invocation

/-- What an invocation does before its command. -/
def opening (inv : Invocation) (supply : Supply) (admin : AdminConfig) :
    Program (Result Session) :=
  (Identity.ensureAdministrator supply.salt admin.username admin.password).bind fun _ =>
    Identity.openSession supply.ticket inv.signIn

theorem program_eq_opening_bind (inv : Invocation) (supply : Supply) (admin : AdminConfig) :
    inv.program supply admin = (inv.opening supply admin).bind fun
      | .error e => .done (.error e)
      | .ok session => inv.serve session :=
  (Program.bind_assoc _ _ _).symm

theorem accounts?_serve (inv : Invocation) (session : Session) (now : Instant)
    (o : OpenDatabase) :
    ((inv.serve session).run (OpenDatabase.handle now) o).2.accounts? = o.accounts? := by
  rw [serve]
  cases inv.command with
  | none => rfl
  | some c =>
    exact OpenDatabase.accounts?_run (c.execute_callsOnly session) c.callKinds_accounts now o

/-- The accounts are what they were when the command began. -/
theorem accounts?_program (inv : Invocation) (supply : Supply) (admin : AdminConfig)
    (now : Instant) (o : OpenDatabase) :
    ((inv.program supply admin).run (OpenDatabase.handle now) o).2.accounts? =
      ((inv.opening supply admin).run (OpenDatabase.handle now) o).2.accounts? := by
  rw [program_eq_opening_bind, Program.run_bind]
  generalize (inv.opening supply admin).run (OpenDatabase.handle now) o = after
  obtain ⟨answer, o'⟩ := after
  cases answer with
  | error e => rfl
  | ok session => exact inv.accounts?_serve session now o'

/-- Opening a session reads accounts only, so the administrator is ensured all the same. -/
theorem accountTable_opening (inv : Invocation) (supply : Supply) (admin : AdminConfig)
    (now : Instant) (o : OpenDatabase) :
    ((inv.opening supply admin).run (OpenDatabase.handle now) o).2.accountTable =
      ((Identity.ensureAdministrator supply.salt admin.username admin.password).run
        (OpenDatabase.handle now) o).2.accountTable := by
  have hreads : ∀ k ∈ [StoreOp.Kind.findAccount], k.changesAccounts = false := by
    simp [StoreOp.Kind.changesAccounts]
  rw [opening, Program.run_bind, OpenDatabase.accountTable, OpenDatabase.accounts?_run
    (Identity.openSession_callsOnly supply.ticket inv.signIn) hreads, OpenDatabase.accountTable]

/-- An administrator's session needs the name of an account and a password of its hash. -/
theorem opening_administrator {inv : Invocation} {supply : Supply} {admin : AdminConfig}
    {now : Instant} {o : OpenDatabase} {session : Session}
    (h : ((inv.opening supply admin).run (OpenDatabase.handle now) o).1 = .ok session)
    (hmode : session.mode = .administrator) :
    ∃ user, inv.options.user = some user ∧
      ∃ a ∈ ((inv.opening supply admin).run (OpenDatabase.handle now) o).2.accountTable.rows,
        Text.trim user = a.username ∧
          Bcrypt.verify (inv.options.password.getD "") a.passwordHash = .ok true := by
  rw [accountTable_opening]
  rw [opening, Program.run_bind, signIn] at h
  cases huser : inv.options.user with
  | none =>
    rw [huser] at h
    cases h
    cases hmode
  | some user =>
    rw [huser] at h
    exact ⟨user, rfl, Identity.authenticate_ok (Identity.openSession_ok h).1⟩

end Invocation

/-- One process that runs an invocation under a configuration. -/
structure Launch where
  inv : Invocation
  supply : Supply
  config : Config

namespace Launch

def after (r : Launch) (v : Volume) : Volume :=
  (r.inv.run r.supply r.config v).2

/-- The database that it works on: opened, and migrated unless that is left out. -/
def database? (r : Launch) (v : Volume) : Option OpenDatabase :=
  if r.inv.options.memory then none
  else match v.openUrl r.config.database.connectionUrl with
    | .error _ => none
    | .ok o => if r.inv.options.noMigrate then some o else o.migrate.toOption

/-- It has an administrator to name, and its database is in the file, has a table of accounts and can
be written. -/
def Seeds (r : Launch) (p : Path) (v : Volume) : Prop :=
  Identity.Given r.config.admin.username r.config.admin.password ∧
    ∃ o ∈ r.database? v, o.file = some p ∧ o.obstacle = none ∧ o.accounts?.isSome

instance (r : Launch) (p : Path) (v : Volume) : Decidable (r.Seeds p v) :=
  inferInstanceAs (Decidable (_ ∧ _))

/-- It works on the file, and begins its command in the session. -/
def Reaches (r : Launch) (p : Path) (v : Volume) (session : Session) : Prop :=
  ∃ o ∈ r.database? v, o.file = some p ∧
    ((r.inv.opening r.supply r.config.admin).run
      (OpenDatabase.handle r.supply.ticket.now) o).1 = .ok session

def account (r : Launch) (id : Int) : Account :=
  ⟨id, Text.trim r.config.admin.username, Bcrypt.hash r.supply.salt r.config.admin.password⟩

variable {r : Launch} {v : Volume} {p : Path} {o : OpenDatabase}

theorem database?_cases (ho : o ∈ r.database? v) :
    ∃ o₁, v.openUrl r.config.database.connectionUrl = .ok o₁ ∧
      (r.inv.options.noMigrate = true ∧ o = o₁ ∨
        r.inv.options.noMigrate = false ∧ o₁.migrate = .ok o) := by
  rw [database?] at ho
  split at ho
  · cases ho
  split at ho
  · cases ho
  · next o₁ hopen =>
    refine ⟨o₁, hopen, ?_⟩
    split at ho
    · next hmigrate => exact .inl ⟨hmigrate, (Option.some.inj ho).symm⟩
    · next hmigrate =>
      refine .inr ⟨Bool.not_eq_true _ ▸ hmigrate, ?_⟩
      cases hdone : o₁.migrate with
      | error e =>
        rw [hdone] at ho
        cases ho
      | ok o₂ =>
        rw [hdone] at ho
        exact congrArg Except.ok (Option.some.inj ho)

/-- A database that is worked on holds the accounts of its file. -/
theorem accountTable_of_database? (ho : o ∈ r.database? v) (hp : o.file = some p) :
    o.accountTable = v.accountTable p := by
  obtain ⟨o₁, hopen, hdone⟩ := database?_cases ho
  have htable (hp₁ : o₁.file = some p) : o₁.accountTable = v.accountTable p :=
    congrArg (fun t? => t?.getD Table.empty) (Volume.accounts?_of_openUrl hopen hp₁)
  rcases hdone with ⟨-, rfl⟩ | ⟨-, hmigrate⟩
  · exact htable hp
  · obtain ⟨hfile, hkept, -⟩ := OpenDatabase.migrate_ok hmigrate
    rw [hkept]
    exact htable (hfile ▸ hp)

/-- The database is put back after the whole program, or as it was opened when its migrations
failed. -/
theorem after_cases (r : Launch) (v : Volume) :
    (∃ o ∈ r.database? v, r.after v = v.close ((r.inv.program r.supply r.config.admin).run
      (OpenDatabase.handle r.supply.ticket.now) o).2) ∨
    r.database? v = none ∧ (r.after v = v ∨
      ∃ o, v.openUrl r.config.database.connectionUrl = .ok o ∧ r.after v = v.close o) := by
  rw [database?, after, Invocation.run]
  by_cases hmemory : r.inv.options.memory = true
  · rw [if_pos hmemory, if_pos hmemory]
    exact .inr ⟨rfl, .inl rfl⟩
  rw [if_neg hmemory, if_neg hmemory]
  cases v.openUrl r.config.database.connectionUrl with
  | error e => exact .inr ⟨rfl, .inl rfl⟩
  | ok o =>
    simp only [Invocation.runOn]
    by_cases hmigrate : r.inv.options.noMigrate = true
    · rw [if_pos hmigrate, if_pos hmigrate]
      exact .inl ⟨o, rfl, rfl⟩
    · rw [if_neg hmigrate, if_neg hmigrate]
      cases o.migrate with
      | error e => exact .inr ⟨rfl, .inr ⟨o, rfl, rfl⟩⟩
      | ok o' => exact .inl ⟨o', rfl, rfl⟩

theorem seeds_iff (ho : o ∈ r.database? v) :
    r.Seeds p v ↔ o.file = some p ∧
      Identity.Given r.config.admin.username r.config.admin.password ∧ o.obstacle = none ∧
        o.accounts?.isSome := by
  constructor
  · rintro ⟨hgiven, o', ho', hfile, hrest⟩
    obtain rfl : o = o' := Option.some.inj (ho.symm.trans ho')
    exact ⟨hfile, hgiven, hrest⟩
  · rintro ⟨hfile, hgiven, hrest⟩
    exact ⟨hgiven, o, ho, hfile, hrest⟩

/-- The accounts of a file are what they were when the command began. -/
theorem accountTable_after_eq_opening (ho : o ∈ r.database? v) (hp : o.file = some p) :
    (r.after v).accountTable p =
      ((r.inv.opening r.supply r.config.admin).run
        (OpenDatabase.handle r.supply.ticket.now) o).2.accountTable := by
  rcases r.after_cases v with ⟨o', ho', hafter⟩ | ⟨hnone, _⟩
  · obtain rfl : o = o' := Option.some.inj (ho.symm.trans ho')
    rw [hafter, Volume.accountTable, Volume.accounts?_close, OpenDatabase.file_run, if_pos hp,
      Invocation.accounts?_program, ← OpenDatabase.accountTable]
  · rw [hnone] at ho
    cases ho

/-- One launch seeds the file or leaves its accounts alone. -/
theorem accountTable_after (r : Launch) (p : Path) (v : Volume) :
    (r.after v).accountTable p =
      if r.Seeds p v then
        (v.accountTable p).seeded (Text.trim r.config.admin.username)
          (Bcrypt.hash r.supply.salt r.config.admin.password)
      else v.accountTable p := by
  by_cases hworks : ∃ o ∈ r.database? v, o.file = some p
  · obtain ⟨o, ho, hp⟩ := hworks
    rw [accountTable_after_eq_opening ho hp, Invocation.accountTable_opening,
      Identity.accountTable_ensureAdministrator, accountTable_of_database? ho hp]
    simp only [seeds_iff ho, hp, true_and]
  · have hidle : ¬ r.Seeds p v := fun ⟨_, o, ho, hp, _⟩ => hworks ⟨o, ho, hp⟩
    rw [if_neg hidle]
    -- the file is not written to, or its own content is put back
    rcases r.after_cases v with ⟨o, ho, hafter⟩ | ⟨_, hafter | ⟨o, hopen, hafter⟩⟩
    · rw [hafter, Volume.accountTable, Volume.accounts?_close, OpenDatabase.file_run,
        if_neg fun hp => hworks ⟨o, ho, hp⟩, Volume.accountTable]
    · rw [hafter]
    · rw [hafter, Volume.accountTable, Volume.accounts?_close]
      split
      · next hp => rw [Volume.accounts?_of_openUrl hopen hp, Volume.accountTable]
      · rw [Volume.accountTable]

end Launch

def launches (v : Volume) (rs : List Launch) : Volume :=
  rs.foldl (fun v r => r.after v) v

/-- The first of the launches that seeds the file. -/
def firstSeeding? (p : Path) (v : Volume) : List Launch → Option Launch
  | [] => none
  | r :: rs => if r.Seeds p v then some r else firstSeeding? p (r.after v) rs

variable {p : Path} {v : Volume}

/-- Accounts that are there stay as they are. -/
theorem accountTable_launches (h : (v.accountTable p).rows ≠ []) (rs : List Launch) :
    (launches v rs).accountTable p = v.accountTable p := by
  induction rs generalizing v with
  | nil => rfl
  | cons r rs ih =>
    have hstep : (r.after v).accountTable p = v.accountTable p := by
      rw [r.accountTable_after, Table.seeded_of_ne_nil h, ite_self]
    exact (ih (hstep ▸ h)).trans hstep

/-- Where there are no accounts, the first launch that seeds the file adds the only one. -/
theorem accounts_launches (h : (v.accountTable p).rows = [])
    (hroom : (v.accountTable p).highest < Table.maxNumber) (rs : List Launch) :
    ((launches v rs).accountTable p).rows =
      ((firstSeeding? p v rs).map (·.account ((v.accountTable p).highest + 1))).toList := by
  induction rs generalizing v with
  | nil => exact h
  | cons r rs ih =>
    rw [firstSeeding?]
    show ((launches (r.after v) rs).accountTable p).rows = _
    have hstep := r.accountTable_after p v
    by_cases hseeds : r.Seeds p v
    · rw [if_pos hseeds] at hstep ⊢
      have hrows : ((r.after v).accountTable p).rows =
          [r.account ((v.accountTable p).highest + 1)] := by
        rw [hstep]
        exact Table.rows_seeded h hroom _ _
      rw [accountTable_launches (hrows ▸ List.cons_ne_nil _ _), hrows]
      rfl
    · rw [if_neg hseeds] at hstep ⊢
      rw [ih (hstep ▸ h) (hstep ▸ hroom), hstep]

theorem length_accounts_launches (hone : (v.accountTable p).rows.length ≤ 1)
    (hroom : (v.accountTable p).rows = [] → (v.accountTable p).highest < Table.maxNumber)
    (rs : List Launch) : ((launches v rs).accountTable p).rows.length ≤ 1 := by
  by_cases h : (v.accountTable p).rows = []
  · rw [accounts_launches h (hroom h)]
    exact Option.length_toList_le
  · rw [accountTable_launches h]
    exact hone

/-- Whatever is launched, a file with room for an account holds one at most. An account that is
there never changes; it is the one of the first launch that seeds the file, and an administrator's
session on the file needs its name and a password of its hash, whatever the configuration says. -/
theorem one_administrator (hone : (v.accountTable p).rows.length ≤ 1)
    (hroom : (v.accountTable p).rows = [] → (v.accountTable p).highest < Table.maxNumber)
    (before later : List Launch) :
    let w := launches v before
    (w.accountTable p).rows.length ≤ 1 ∧
      (∀ a, (w.accountTable p).rows = [a] → ((launches w later).accountTable p).rows = [a]) ∧
      ((v.accountTable p).rows = [] → (w.accountTable p).rows =
        ((firstSeeding? p v before).map (·.account ((v.accountTable p).highest + 1))).toList) ∧
      ∀ (r : Launch) (session : Session), r.Reaches p w session →
        session.mode = .administrator →
          ∃ a user, ((r.after w).accountTable p).rows = [a] ∧ r.inv.options.user = some user ∧
            Text.trim user = a.username ∧
              Bcrypt.verify (r.inv.options.password.getD "") a.passwordHash = .ok true := by
  intro w
  refine ⟨length_accounts_launches hone hroom before, fun a ha => ?_,
    fun h => accounts_launches h (hroom h) before, fun r session hreaches hmode => ?_⟩
  · have hfull : (w.accountTable p).rows ≠ [] := ha ▸ List.cons_ne_nil a []
    rw [accountTable_launches hfull]
    exact ha
  -- the launch may itself have seeded the file, so the accounts are those after it
  · obtain ⟨o, ho, hp, hsession⟩ := hreaches
    obtain ⟨user, huser, a, ha, hname, hverify⟩ :=
      Invocation.opening_administrator hsession hmode
    rw [← Launch.accountTable_after_eq_opening ho hp] at ha
    have hlength : ((r.after w).accountTable p).rows.length ≤ 1 := by
      have hlaunches := length_accounts_launches hone hroom (before ++ [r])
      rwa [launches, List.foldl_append] at hlaunches
    obtain ⟨b, hb⟩ := List.length_eq_one_iff.mp
      (Nat.le_antisymm hlength (List.length_pos_of_mem ha))
    rw [hb] at ha
    obtain rfl : a = b := List.mem_singleton.mp ha
    exact ⟨a, user, hb, huser, hname, hverify⟩

def guestLaunch (noMigrate : Bool) (admin : AdminConfig) : Launch where
  inv := ⟨⟨none, none, false, noMigrate, false, none, none, false⟩, none⟩
  supply := (surroundingsOf .missing).supply
  config := ⟨⟨"r.db", none⟩, ⟨"info", "text"⟩, admin⟩

/-- A blank name is passed over, the next one is trimmed and kept, and the one after comes too
late. -/
theorem one_administrator_past_a_blank_name :
    let v : Volume := ⟨[], [[]], []⟩
    let w := launches v [guestLaunch false ⟨" ", "a"⟩, guestLaunch true ⟨" root ", "b"⟩]
    ((launches w [guestLaunch false ⟨"other", "c"⟩]).accountTable ["r.db"]).rows.map
      (·.username) = ["root"] := by
  intro v w
  have hempty : (v.accountTable ["r.db"]).rows = [] := rfl
  obtain ⟨_, hlater, hfirst, _⟩ := one_administrator (p := ["r.db"]) (v := v)
    (hempty ▸ Nat.zero_le 1) (fun _ => by decide)
    [guestLaunch false ⟨" ", "a"⟩, guestLaunch true ⟨" root ", "b"⟩]
    [guestLaunch false ⟨"other", "c"⟩]
  have hblank : ¬ (guestLaunch false ⟨" ", "a"⟩).Seeds ["r.db"] v := by decide +kernel
  have hseeds : (guestLaunch true ⟨" root ", "b"⟩).Seeds ["r.db"]
      ((guestLaunch false ⟨" ", "a"⟩).after v) := by decide +kernel
  have htrim : Text.trim " root " = "root" := by decide +kernel
  have hseeding := hfirst hempty
  rw [firstSeeding?, if_neg hblank, firstSeeding?, if_pos hseeds] at hseeding
  rw [hlater _ hseeding]
  exact congrArg (fun name => [name]) htrim

def guestLaunchAt (url : String) (admin : AdminConfig) : Launch :=
  { guestLaunch false admin with config := ⟨⟨"r.db", some url⟩, ⟨"info", "text"⟩, admin⟩ }

/-- A file that is opened for reading gets no administrator, although its table of accounts is there
and the launch has one to name; the next launch that can write to it puts in its own. And a file
that held two accounts keeps both of them. -/
theorem first_named_administrator_left_out :
    let p : Path := ["r.db"]
    let v : Volume := ⟨[], [[]], [(p, .database .fresh)]⟩
    let reader := guestLaunchAt "sqlite://r.db?mode=ro" ⟨"root", "a"⟩
    let writer := guestLaunchAt "sqlite://r.db" ⟨"other", "b"⟩
    let two : Table Account := ⟨[⟨1, "a", ""⟩, ⟨2, "b", ""⟩], 2⟩
    let v₂ : Volume := ⟨[], [[]], [(p, .database ⟨some .empty, some two⟩)]⟩
    (reader.inv.options.memory = false ∧
        Identity.Given reader.config.admin.username reader.config.admin.password ∧
        ∃ o ∈ reader.database? v, o.file = some p ∧ o.accounts?.isSome) ∧
      ((launches v [reader]).accountTable p).rows = [] ∧
      ((launches v [reader, writer]).accountTable p).rows.map (·.username) = ["other"] ∧
      ((launches v₂ [writer]).accountTable p).rows.length = 2 := by
  intro p v reader writer two v₂
  have hidle : ¬ reader.Seeds p v := by decide +kernel
  have hread : (launches v [reader]).accountTable p = v.accountTable p :=
    (reader.accountTable_after p v).trans (if_neg hidle)
  have hempty : (v.accountTable p).rows = [] := rfl
  have hseeds : writer.Seeds p (reader.after v) := by decide +kernel
  refine ⟨⟨rfl, by decide +kernel, by decide +kernel⟩, hread ▸ hempty, ?_, ?_⟩
  · have htrim : Text.trim "other" = "other" := by decide +kernel
    have hwritten := accounts_launches hempty (by decide) [reader, writer]
    rw [firstSeeding?, if_neg hidle, firstSeeding?, if_pos hseeds] at hwritten
    rw [hwritten]
    exact congrArg (fun name => [name]) htrim
  · have hfull : (v₂.accountTable p).rows ≠ [] := List.cons_ne_nil _ _
    rw [accountTable_launches hfull]
    rfl

end Console

end ChargingRegister
