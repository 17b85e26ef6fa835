import ChargingRegister.Store.Database

/-!
# Runs of a store

A store answers operations one after another, each at an instant that a clock gives. A run yields
the operations with their replies, and what the store holds in the end.
-/
namespace ChargingRegister

/-- The instants of the calls of a run, which may come in any order. -/
abbrev Clock := Nat → Instant

namespace Clock

def tail (c : Clock) : Clock := fun n => c (n + 1)

end Clock

abbrev StoreAnswer := (op : StoreOp) × StoreReply op

section

variable {σ : Type} (handle : Instant → Handler σ)

def runCalls (clock : Clock) : List StoreOp → σ → List StoreAnswer × σ
  | [], s => ([], s)
  | op :: ops, s =>
    let after := handle (clock 0) op s
    let rest := runCalls clock.tail ops after.2
    (⟨op, after.1⟩ :: rest.1, rest.2)

@[simp] theorem runCalls_nil (clock : Clock) (s : σ) : runCalls handle clock [] s = ([], s) := rfl

theorem runCalls_cons (clock : Clock) (op : StoreOp) (ops : List StoreOp) (s : σ) :
    runCalls handle clock (op :: ops) s =
      (⟨op, (handle (clock 0) op s).1⟩ ::
          (runCalls handle clock.tail ops (handle (clock 0) op s).2).1,
        (runCalls handle clock.tail ops (handle (clock 0) op s).2).2) := rfl

/-- What every one of the calls preserves holds in the end. -/
theorem runCalls_preserves {P : σ → Prop} {ops : List StoreOp}
    (step : ∀ op ∈ ops, ∀ now s, P s → P (handle now op s).2) (clock : Clock) {s : σ} (h : P s) :
    P (runCalls handle clock ops s).2 := by
  induction ops generalizing clock s with
  | nil => exact h
  | cons op ops ih =>
    rw [runCalls_cons]
    exact ih (fun op' hop' => step op' (List.mem_cons_of_mem _ hop')) _
      (step op List.mem_cons_self _ _ h)

end

inductive Store where
  | memory (m : MemoryStore)
  | database (db : Database)
  deriving DecidableEq

namespace Store

def handle (now : Instant) : Handler Store
  | op, .memory m => ((MemoryStore.handle now op m).1, .memory (MemoryStore.handle now op m).2)
  | op, .database db => ((Database.handle now op db).1, .database (Database.handle now op db).2)

/-- A store in which nothing was ever put; the database has all its tables. -/
def IsNew (s : Store) : Prop :=
  s = .memory .empty ∨ s = .database .fresh

theorem runCalls_memory (clock : Clock) (ops : List StoreOp) (m : MemoryStore) :
    runCalls handle clock ops (.memory m) =
      ((runCalls MemoryStore.handle clock ops m).1,
        .memory (runCalls MemoryStore.handle clock ops m).2) := by
  induction ops generalizing clock m with
  | nil => rfl
  | cons op ops ih => rw [runCalls_cons, runCalls_cons, handle, ih]

theorem runCalls_database (clock : Clock) (ops : List StoreOp) (db : Database) :
    runCalls handle clock ops (.database db) =
      ((runCalls Database.handle clock ops db).1,
        .database (runCalls Database.handle clock ops db).2) := by
  induction ops generalizing clock db with
  | nil => rfl
  | cons op ops ih => rw [runCalls_cons, runCalls_cons, handle, ih]

end Store

end ChargingRegister
