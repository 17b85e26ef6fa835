import ChargingRegister.Proofs.Store.Calls

/-!
# Calls with their replies

The trace of a run lists the calls that a program made with what was replied to each. A program is
atomic when it reads first and writes at most once, as its last call, and when it ends with every
refusal that it meets. Its answer then tells of a failure just when its trace does, and a store
that refuses without changing anything is left as it was by every run that ends in an error.
-/
namespace ChargingRegister.Program

variable {α σ : Type}

def trace (handle : Handler σ) : Program α → σ → List StoreAnswer
  | .done _, _ => []
  | .call op next, s =>
    ⟨op, (handle op s).1⟩ :: (next (handle op s).1).trace handle (handle op s).2

@[simp] theorem trace_done (handle : Handler σ) (a : α) (s : σ) :
    (Program.done a).trace handle s = [] := rfl

@[simp] theorem trace_call (handle : Handler σ) (op : StoreOp)
    (next : StoreReply op → Program α) (s : σ) :
    (Program.call op next).trace handle s =
      ⟨op, (handle op s).1⟩ ::
        (next (handle op s).1).trace handle (handle op s).2 := rfl

@[simp] theorem run_perform (handle : Handler σ) (op : StoreOp) (s : σ) :
    (Program.perform op).run handle s = handle op s := rfl

theorem CallsOnly.kind_of_mem_trace {kinds : List StoreOp.Kind} {p : Program α}
    (hp : p.CallsOnly kinds) (handle : Handler σ) (s : σ) :
    ∀ a ∈ p.trace handle s, a.1.kind ∈ kinds := by
  induction hp generalizing s with
  | done a => simp
  | call hop _ ih =>
    rw [trace_call]
    exact List.forall_mem_cons.mpr ⟨hop, ih _ _⟩

theorem run_preserves {P : σ → Prop} (handle : Handler σ) (p : Program α) {s : σ}
    (hcalls : ∀ a ∈ p.trace handle s, ∀ s', P s' → P (handle a.1 s').2) (h : P s) :
    P (p.run handle s).2 := by
  induction p generalizing s with
  | done a => exact h
  | call op next ih =>
    obtain ⟨hfirst, hrest⟩ := List.forall_mem_cons.mp hcalls
    exact ih _ hrest (hfirst s h)

/-- Reads come first, one write at most comes last, and refusals are handed on. -/
inductive Atomic : Program (Except RegistryError α) → Prop
  | done {answer : Except RegistryError α}
    (h : ∀ operation cause, answer ≠ .error (.storageFailure operation cause)) :
    Atomic (.done answer)
  | read {op : StoreOp} {next : StoreReply op → Program (Except RegistryError α)}
    (hop : op.kind.writes = false) (hrefused : ∀ e, next (.error e) = .done (.error e))
    (hnext : ∀ a, Atomic (next (.ok a))) : Atomic (.call op next)
  | write {op : StoreOp} {next : StoreReply op → Program (Except RegistryError α)}
    (hrefused : ∀ e, next (.error e) = .done (.error e))
    (hnext : ∀ a, ∃ b, next (.ok a) = .done (.ok b)) : Atomic (.call op next)

theorem Atomic.perform (op : StoreOp) : Atomic (Program.perform op) :=
  .write (fun _ => rfl) fun a => ⟨a, rfl⟩

theorem Atomic.map {β : Type} {p : Program (Except RegistryError α)} (hp : p.Atomic) (f : α → β) :
    (p.bind fun answer => .done (answer.map f)).Atomic := by
  induction hp with
  | @done answer h =>
    refine .done fun operation cause heq => ?_
    cases answer with
    | error e => exact h operation cause (congrArg Except.error (Except.error.inj heq))
    | ok a => cases heq
  | read hop hrefused _ ih =>
    refine .read hop (fun e => ?_) ih
    rw [hrefused]
    rfl
  | write hrefused hnext =>
    refine .write (fun e => ?_) fun a => ?_
    · rw [hrefused]
      rfl
    · obtain ⟨b, hb⟩ := hnext a
      exact ⟨f b, by rw [hb]; rfl⟩

namespace Atomic

variable {p : Program (Except RegistryError α)} (hp : p.Atomic) {handle : Handler σ}
include hp

theorem writes_of_mem_dropLast (s : σ) :
    ∀ a ∈ (p.trace handle s).dropLast, a.1.kind.writes = false := by
  induction hp generalizing s with
  | done => simp
  | @read op next hop hrefused _ ih =>
    rw [trace_call]
    cases (handle op s).1 with
    | error e => simp [hrefused]
    | ok a =>
      -- the read counts only when another call follows it
      by_cases hlast : (next (.ok a)).trace handle (handle op s).2 = []
      · simp [hlast]
      · rw [List.dropLast_cons_of_ne_nil hlast]
        exact List.forall_mem_cons.mpr ⟨hop, ih a _⟩
  | @write op next hrefused hnext =>
    rw [trace_call]
    cases (handle op s).1 with
    | error e => simp [hrefused]
    | ok a =>
      obtain ⟨b, hb⟩ := hnext a
      simp [hb]

/-- The answer is a failure of the store when one of the calls failed so. -/
theorem run_eq_storageFailure_iff (s : σ) (operation cause : String) :
    (p.run handle s).1 = .error (.storageFailure operation cause) ↔
      ∃ a ∈ p.trace handle s, a.2 = .error (.storageFailure operation cause) := by
  induction hp generalizing s with
  | done h => simp [h operation cause]
  | @read op next hop hrefused _ ih =>
    rw [trace_call, run_call]
    cases hreply : (handle op s).1 with
    | error e => simp [hrefused]
    | ok a => simp [ih a]
  | @write op next hrefused hnext =>
    rw [trace_call, run_call]
    cases hreply : (handle op s).1 with
    | error e => simp [hrefused]
    | ok a =>
      obtain ⟨b, hb⟩ := hnext a
      simp [hb]

section

variable {γ : Type} {f : σ → γ}
  (hreads : ∀ op s, op.kind.writes = false → f (handle op s).2 = f s)
include hreads

theorem reply_of_mem_trace (s : σ) :
    ∀ a ∈ p.trace handle s, ∃ s', f s' = f s ∧ a.2 = (handle a.1 s').1 := by
  induction hp generalizing s with
  | done => simp
  | @read op next hop hrefused _ ih =>
    rw [trace_call]
    refine List.forall_mem_cons.mpr ⟨⟨s, rfl, rfl⟩, ?_⟩
    cases (handle op s).1 with
    | error e => simp [hrefused]
    | ok a =>
      intro b hb
      obtain ⟨s', hs', hreply⟩ := ih a _ b hb
      exact ⟨s', hs'.trans (hreads op s hop), hreply⟩
  | @write op next hrefused hnext =>
    rw [trace_call]
    refine List.forall_mem_cons.mpr ⟨⟨s, rfl, rfl⟩, ?_⟩
    cases (handle op s).1 with
    | error e => simp [hrefused]
    | ok a =>
      obtain ⟨b, hb⟩ := hnext a
      simp [hb]

/-- After an error everything is as it was, where refused calls change nothing. -/
theorem part_run_of_error
    (hrefusals : ∀ op s e, (handle op s).1 = .error e → f (handle op s).2 = f s) {s : σ}
    {e : RegistryError} (h : (p.run handle s).1 = .error e) :
    f (p.run handle s).2 = f s := by
  induction hp generalizing s with
  | done => rfl
  | @read op next hop hrefused _ ih =>
    rw [run_call] at h ⊢
    cases hreply : (handle op s).1 with
    | error e' =>
      rw [hrefused]
      exact hreads op s hop
    | ok a =>
      rw [hreply] at h
      exact (ih a h).trans (hreads op s hop)
  | @write op next hrefused hnext =>
    rw [run_call] at h ⊢
    cases hreply : (handle op s).1 with
    | error e' =>
      rw [hrefused]
      exact hrefusals op s e' hreply
    | ok a =>
      obtain ⟨b, hb⟩ := hnext a
      rw [hreply, hb] at h
      cases h

end

end Atomic

end ChargingRegister.Program
