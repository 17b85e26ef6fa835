import ChargingRegister.Proofs.Store.Calls
import ChargingRegister.Store.Volume

/-!
# The accounts in a database file

Opening a file, migrating the database in it and putting that back leave the accounts alone; a
table that a migration creates holds none. So the accounts of a file change only by a call that
creates one, and a table that is not there counts as an empty one.
-/
namespace ChargingRegister

/-- The table of accounts, where there is one. -/
def FileContent.accounts? : FileContent → Option (Table Account)
  | .database db => db.accounts
  | .other => none

theorem Database.accounts_migrate (db : Database) :
    (db.migrate migrationCount).accounts.getD .empty = db.accounts.getD .empty := by
  obtain ⟨stations, accounts⟩ := db
  cases stations <;> cases accounts <;> rfl

theorem Database.isSome_accounts_migrate (db : Database) :
    (db.migrate migrationCount).accounts.isSome = true := by
  obtain ⟨stations, accounts⟩ := db
  cases stations <;> cases accounts <;> rfl

namespace OpenDatabase

variable {o o' : OpenDatabase} {t : Table Account}

def accounts? (o : OpenDatabase) : Option (Table Account) :=
  o.content.accounts?

def accountTable (o : OpenDatabase) : Table Account :=
  o.accounts?.getD .empty

theorem accountTable_of_some (h : o.accounts? = some t) : o.accountTable = t := by
  rw [accountTable, h]
  rfl

/-- A migration that succeeds keeps the way to the file and the accounts, for which there is a
table then. -/
theorem migrate_ok (h : o.migrate = .ok o') :
    o'.file = o.file ∧ o'.accountTable = o.accountTable ∧ o'.accounts?.isSome = true := by
  obtain ⟨file, obstacle, content⟩ := o
  cases content with
  | other => cases h
  | database db =>
    cases obstacle with
    | none =>
      cases h
      exact ⟨rfl, db.accounts_migrate, db.isSome_accounts_migrate⟩
    | some f =>
      simp only [migrate] at h
      split at h
      · next hsame =>
        cases h
        have htable := db.isSome_accounts_migrate
        rw [hsame] at htable
        exact ⟨rfl, rfl, htable⟩
      · cases h

theorem handle_of_obstacle {f : Fault} (h : o.obstacle = some f) (op : StoreOp) (now : Instant) :
    (handle now op o).2 = o := by
  obtain ⟨file, obstacle, content⟩ := o
  cases h
  cases content with
  | other => rfl
  | database db =>
    simp only [handle]
    split <;> rfl

@[simp] theorem file_handle (op : StoreOp) (now : Instant) (o : OpenDatabase) :
    (handle now op o).2.file = o.file := by
  cases hobstacle : o.obstacle with
  | some f => rw [handle_of_obstacle hobstacle]
  | none =>
    obtain ⟨file, obstacle, content⟩ := o
    cases hobstacle
    cases content <;> rfl

@[simp] theorem file_run {α : Type} (p : Program α) (now : Instant) (o : OpenDatabase) :
    (p.run (handle now) o).2.file = o.file := by
  induction p generalizing o with
  | done a => rfl
  | call op next ih => rw [Program.run_call, ih, file_handle]

theorem accounts?_handle {op : StoreOp} (h : op.kind.changesAccounts = false) (now : Instant)
    (o : OpenDatabase) : (handle now op o).2.accounts? = o.accounts? := by
  cases hobstacle : o.obstacle with
  | some f => rw [handle_of_obstacle hobstacle]
  | none =>
    obtain ⟨file, obstacle, content⟩ := o
    cases hobstacle
    cases content with
    | other => rfl
    | database db => exact Sum.inr.inj (Store.accountPart_handle h now (.database db))

theorem accounts?_run {α : Type} {kinds : List StoreOp.Kind} {p : Program α}
    (hp : p.CallsOnly kinds) (hkinds : ∀ k ∈ kinds, k.changesAccounts = false) (now : Instant)
    (o : OpenDatabase) : (p.run (handle now) o).2.accounts? = o.accounts? :=
  hp.run_preserves accounts? (fun _ o hop => accounts?_handle (hkinds _ hop) now o) o

theorem handle_countAccounts (h : o.accounts? = some t) (now : Instant) :
    handle now .countAccounts o = (.ok t.rows.length, o) := by
  obtain ⟨file, obstacle, content⟩ := o
  cases content with
  | other => cases h
  | database db =>
    obtain ⟨stations, accounts⟩ := db
    cases h
    cases obstacle <;> rfl

theorem handle_countAccounts_of_none (h : o.accounts? = none) (now : Instant) :
    ∃ e, handle now .countAccounts o = (.error e, o) := by
  obtain ⟨file, obstacle, content⟩ := o
  cases content with
  | other => exact ⟨_, rfl⟩
  | database db =>
    obtain ⟨stations, accounts⟩ := db
    cases h
    cases obstacle <;> exact ⟨_, rfl⟩

theorem handle_findAccount (h : o.accounts? = some t) (username : String) (now : Instant) :
    (handle now (.findAccount username) o).1 = .ok (t.rows.find? (·.username == username)) := by
  obtain ⟨file, obstacle, content⟩ := o
  cases content with
  | other => cases h
  | database db =>
    obtain ⟨stations, accounts⟩ := db
    cases h
    cases obstacle <;> rfl

theorem handle_findAccount_of_none (h : o.accounts? = none) (username : String) (now : Instant) :
    ∃ e, (handle now (.findAccount username) o).1 = .error e := by
  obtain ⟨file, obstacle, content⟩ := o
  cases content with
  | other => exact ⟨_, rfl⟩
  | database db =>
    obtain ⟨stations, accounts⟩ := db
    cases h
    cases obstacle <;> exact ⟨_, rfl⟩

/-- An account is put into a table that is there, unless its database cannot be written. -/
theorem accountTable_createAccount (h : o.accounts? = some t) (username passwordHash : String)
    (now : Instant) :
    (handle now (.createAccount username passwordHash) o).2.accountTable =
      if o.obstacle = none then (Database.insertAccount username passwordHash t).2 else t := by
  obtain ⟨file, obstacle, content⟩ := o
  cases content with
  | other => cases h
  | database db =>
    obtain ⟨stations, accounts⟩ := db
    cases h
    cases obstacle <;> rfl

end OpenDatabase

namespace Volume

variable {v : Volume} {p : Path}

/-- The table of accounts of the database in a file, where there is one. -/
def accounts? (v : Volume) (p : Path) : Option (Table Account) :=
  (v.lookup p).bind FileContent.accounts?

def accountTable (v : Volume) (p : Path) : Table Account :=
  (v.accounts? p).getD .empty

theorem lookup_filter_ne {q : Path} (h : p ≠ q) (files : List (Path × FileContent)) :
    (files.filter (·.1 != q)).lookup p = files.lookup p := by
  induction files with
  | nil => rfl
  | cons file files ih =>
    rw [List.filter_cons]
    split
    · rw [List.lookup_cons, List.lookup_cons, ih]
    · next hq =>
      have hfile : file.1 = q := by simpa using hq
      have hp : (p == file.1) = false := beq_eq_false_iff_ne.mpr (hfile ▸ h)
      rw [List.lookup_cons, hp, ih]

theorem lookup_put_of_ne {q : Path} (h : p ≠ q) (content : FileContent) :
    (v.put q content).lookup p = v.lookup p := by
  have hq : (p == q) = false := beq_eq_false_iff_ne.mpr h
  show List.lookup p ((q, content) :: v.files.filter (·.1 != q)) = v.files.lookup p
  rw [List.lookup_cons, hq]
  exact lookup_filter_ne h v.files

/-- A file that is opened is new, or it is opened as it is. -/
theorem openFile_ok {how : Opening} {text : String} {o : OpenDatabase}
    (h : v.openFile how text = .ok o) :
    ∃ q, o.file = some q ∧ o.content = (v.lookup q).getD (.database .blank) := by
  cases hplace : v.place text with
  | error f =>
    rw [openFile, hplace] at h
    cases h
  | ok q =>
    rw [openFile, hplace] at h
    simp only [bind, Except.bind] at h
    split at h
    · cases h
    split at h
    · cases h
    split at h
    · cases h
    split at h
    · cases h
    -- past the checks: what is there is opened as it is
    split at h
    · next content hcontent =>
      cases h
      exact ⟨q, rfl, by rw [hcontent]; rfl⟩
    · next hcontent =>
      split at h
      · cases h
        exact ⟨q, rfl, by rw [hcontent]; rfl⟩
      · cases h

theorem accounts?_of_openUrl {url : String} {o : OpenDatabase} (h : v.openUrl url = .ok o)
    (hfile : o.file = some p) : o.accounts? = v.accounts? p := by
  rw [openUrl] at h
  split at h
  · cases h
  · next how _ =>
    rw [openDatabase] at h
    split at h
    · next text _ =>
      cases hopen : v.openFile how text with
      | error f =>
        rw [hopen] at h
        cases h
      | ok o' =>
        rw [hopen] at h
        cases h
        obtain ⟨q, hq, hcontent⟩ := openFile_ok hopen
        obtain rfl : q = p := Option.some.inj (hq.symm.trans hfile)
        rw [OpenDatabase.accounts?, hcontent, accounts?]
        cases v.lookup q <;> rfl
    · cases h
      cases hfile

theorem accounts?_close (v : Volume) (o : OpenDatabase) (p : Path) :
    (v.close o).accounts? p = if o.file = some p then o.accounts? else v.accounts? p := by
  cases hfile : o.file with
  | none =>
    rw [close, hfile]
    rfl
  | some q =>
    rw [close, hfile]
    by_cases hq : p = q
    · rw [if_pos (congrArg some hq.symm), hq, accounts?, lookup_put]
      rfl
    · rw [if_neg fun h => hq (Option.some.inj h).symm, accounts?, lookup_put_of_ne hq, accounts?]

end Volume

end ChargingRegister
