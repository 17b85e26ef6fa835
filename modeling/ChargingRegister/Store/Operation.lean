import ChargingRegister.Error
import ChargingRegister.Station

/-!
# Store operations and the programs over them

A store keeps stations and accounts, and answers nine operations, one at a time. A program is a tree
of such calls: it stops with a value, or makes one call and goes on with the reply. Any handler of
the operations runs any program, so different stores are compared on the same calls, and several
programs can take turns call by call.
-/
namespace ChargingRegister

/-- Someone who may sign in. The username is the key, the password is kept as a hash only. -/
structure Account where
  id : Int
  username : String
  passwordHash : String
  deriving DecidableEq, Repr

inductive StoreOp where
  | insert (station : Station)
  | update (station : Station)
  | delete (id : Int)
  | findById (id : Int)
  | findAll
  | search (text : String)
  | findAccount (username : String)
  | createAccount (username passwordHash : String)
  | countAccounts

namespace StoreOp

/-- What a successful call returns. An update or removal tells whether it met a record. -/
abbrev Answer : StoreOp → Type
  | .insert _ => Station
  | .update _ => Bool
  | .delete _ => Bool
  | .findById _ => Option Station
  | .findAll => List Station
  | .search _ => List Station
  | .findAccount _ => Option Account
  | .createAccount _ _ => Account
  | .countAccounts => Nat

inductive Kind where
  | insert | update | delete | findById | findAll | search
  | findAccount | createAccount | countAccounts
  deriving DecidableEq, Repr

def kind : StoreOp → Kind
  | .insert _ => .insert
  | .update _ => .update
  | .delete _ => .delete
  | .findById _ => .findById
  | .findAll => .findAll
  | .search _ => .search
  | .findAccount _ => .findAccount
  | .createAccount _ _ => .createAccount
  | .countAccounts => .countAccounts

namespace Kind

def all : List Kind :=
  [.insert, .update, .delete, .findById, .findAll, .search,
    .findAccount, .createAccount, .countAccounts]

/-- The name under which failures report the operation. -/
def name : Kind → String
  | .insert => "insert"
  | .update => "update"
  | .delete => "delete"
  | .findById => "find_by_id"
  | .findAll => "find_all"
  | .search => "search"
  | .findAccount => "find_user_by_username"
  | .createAccount => "create_user"
  | .countAccounts => "count_users"

def ofName? (name : String) : Option Kind :=
  all.find? (·.name == name)

def writes : Kind → Bool
  | .insert | .update | .delete | .createAccount => true
  | _ => false

end Kind

end StoreOp

abbrev StoreReply (op : StoreOp) := Except RegistryError op.Answer

abbrev Handler (σ : Type) := (op : StoreOp) → σ → StoreReply op × σ

inductive Program (α : Type) where
  | done (value : α)
  | call (op : StoreOp) (next : StoreReply op → Program α)

namespace Program

def bind {α β : Type} : Program α → (α → Program β) → Program β
  | .done a, f => f a
  | .call op next, f => .call op fun reply => (next reply).bind f

instance : Monad Program where
  pure := .done
  bind := bind

def perform (op : StoreOp) : Program (StoreReply op) :=
  .call op .done

def run {σ α : Type} (handle : Handler σ) : Program α → σ → α × σ
  | .done a, s => (a, s)
  | .call op next, s => (next (handle op s).1).run handle (handle op s).2

def step {σ α : Type} (handle : Handler σ) : Program α → σ → Program α × σ
  | .done a, s => (.done a, s)
  | .call op next, s => (next (handle op s).1, (handle op s).2)

@[simp] theorem run_done {σ α : Type} (handle : Handler σ) (a : α) (s : σ) :
    (Program.done a).run handle s = (a, s) := rfl

@[simp] theorem run_call {σ α : Type} (handle : Handler σ) (op : StoreOp)
    (next : StoreReply op → Program α) (s : σ) :
    (Program.call op next).run handle s =
      (next (handle op s).1).run handle (handle op s).2 := rfl

@[simp] theorem run_bind {σ α β : Type} (handle : Handler σ) (p : Program α)
    (f : α → Program β) (s : σ) :
    (p.bind f).run handle s = (f (p.run handle s).1).run handle (p.run handle s).2 := by
  induction p generalizing s with
  | done a => rfl
  | call op next ih => simp [bind, ih]

theorem run_step {σ α : Type} (handle : Handler σ) (p : Program α) (s : σ) :
    (p.step handle s).1.run handle (p.step handle s).2 = p.run handle s := by
  cases p <;> rfl

end Program

end ChargingRegister
