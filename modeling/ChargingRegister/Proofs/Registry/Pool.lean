import ChargingRegister.Proofs.Registry.Request
import ChargingRegister.Proofs.Store.Numbers

/-!
# Calls that take turns

Several calls for records are under way at one store. Whichever goes on makes its next call of the
store and is then interrupted, so that every order of these single calls is a run of the pool. A
call is under way with all of its program ahead, between the read and the write of a change of
status, or with nothing left but its answer.
-/
namespace ChargingRegister.Registry

/-- A call, with what is left of its program. -/
structure Pending where
  call : RecordCall
  rest : Program (Result call.Value)

namespace Pending

def start (c : RecordCall) : Pending :=
  ⟨c, c.program⟩

/-- Makes the next call of the store, if there is one left. -/
def step {σ : Type} (handle : Handler σ) (p : Pending) (s : σ) : Pending × σ :=
  (⟨p.call, (p.rest.step handle s).1⟩, (p.rest.step handle s).2)

theorem step_preserves {σ : Type} {P : σ → Prop} {handle : Handler σ}
    (hP : ∀ op s, P s → P (handle op s).2) (p : Pending) {s : σ} (h : P s) :
    P (p.step handle s).2 := by
  obtain ⟨c, rest⟩ := p
  cases rest with
  | done answer => exact h
  | call op next => exact hP op s h

def next? (p : Pending) : Option StoreOp :=
  match p.rest with
  | .done _ => none
  | .call op _ => some op

/-- What can be left of a call: its answer, the one operation whose reply is the answer, or a read
and the write of the record that was read. -/
inductive Proper : Pending → Prop
  | answered (c : RecordCall) (answer : Result c.Value) : Proper ⟨c, .done answer⟩
  | create (s : Station) : Proper ⟨.create s, .perform (.insert s)⟩
  | update (s : Station) : Proper ⟨.update s, .perform (.update s)⟩
  | read (id : Int) (status : Status) :
    Proper ⟨.updateStatus id status, .call (.findById id) (writeBack id status)⟩
  | write (status : Status) (r : Station) :
    Proper ⟨.updateStatus r.id status, .perform (.update { r with status })⟩
  | delete (id : Int) : Proper ⟨.delete id, .perform (.delete id)⟩
  | find (id : Int) : Proper ⟨.find id, .perform (.findById id)⟩

theorem proper_start (c : RecordCall) : (start c).Proper := by
  -- input is refused at once, or the first call of the store is still to come
  cases c with
  | create s =>
    rcases create_cases s with ⟨reason, h⟩ | ⟨-, h⟩ <;> rw [start, RecordCall.program, h]
    · exact .answered _ _
    · exact .create s
  | update s =>
    rcases update_cases s with ⟨reason, h⟩ | ⟨-, h⟩ <;> rw [start, RecordCall.program, h]
    · exact .answered _ _
    · exact .update s
  | updateStatus id status =>
    rcases updateStatus_cases id status with ⟨reason, h⟩ | ⟨-, h⟩ <;>
      rw [start, RecordCall.program, h]
    · exact .answered _ _
    · exact .read id status
  | delete id =>
    rcases delete_cases id with ⟨reason, h⟩ | h <;> rw [start, RecordCall.program, h]
    · exact .answered _ _
    · exact .delete id
  | find id =>
    rcases find_cases id with h | h <;> rw [start, RecordCall.program, h]
    · exact .answered _ _
    · exact .find id

theorem proper_writeBack {id : Int} (status : Status) (reply : StoreReply (.findById id))
    (hid : ∀ r, reply = .ok (some r) → r.id = id) :
    Proper ⟨.updateStatus id status, writeBack id status reply⟩ := by
  match reply with
  | .error e => exact .answered _ _
  | .ok none => exact .answered _ _
  | .ok (some r) =>
    obtain rfl := hid r rfl
    rw [writeBack_some]
    rcases update_cases { r with status } with ⟨reason, h⟩ | ⟨-, h⟩ <;> rw [h]
    · exact .answered _ _
    · exact .write status r

theorem Proper.step {p : Pending} (hp : p.Proper) (now : Instant) (s : Store) :
    (p.step (Store.handle now) s).1.Proper := by
  cases hp with
  | read id status => exact proper_writeBack status _ fun r hr => (Store.mem_of_findById hr).2
  | answered | create | update | write | delete | find => exact .answered _ _

theorem legible_step (p : Pending) {s : Store} (h : s.Rows StationRow.Legible) (now : Instant) :
    (p.step (Store.handle now) s).2.Rows StationRow.Legible :=
  step_preserves (P := Store.Rows StationRow.Legible) (fun op _ hrows =>
    Store.rows_handle (fun s id => StationRow.legible_ofStation id now s) hrows op) p h

end Pending

/-- Calls that are under way, and the store that they share. -/
structure Pool (σ : Type) where
  calls : List Pending
  store : σ

/-- The call that goes on, and the instant at which it does. -/
structure Move where
  index : Nat
  now : Instant

namespace Pool

variable {σ : Type} (handle : Instant → Handler σ)

def start (calls : List RecordCall) (s : σ) : Pool σ :=
  ⟨calls.map .start, s⟩

def step (w : Pool σ) (m : Move) : Pool σ :=
  match w.calls[m.index]? with
  | none => w
  | some p =>
    let after := p.step (handle m.now) w.store
    ⟨w.calls.set m.index after.1, after.2⟩

def run (w : Pool σ) (moves : List Move) : Pool σ :=
  moves.foldl (step handle) w

theorem step_middle {front back : List Pending} {p : Pending} {s : σ} {m : Move}
    (h : front.length = m.index) :
    step handle ⟨front ++ p :: back, s⟩ m =
      ⟨front ++ (p.step (handle m.now) s).1 :: back, (p.step (handle m.now) s).2⟩ := by
  have hcall : (front ++ p :: back)[m.index]? = some p := by
    rw [← h, List.getElem?_append_right (Nat.le_refl _), Nat.sub_self]
    rfl
  rw [step, hcall]
  simp only [← h, List.set_append_right _ _ (Nat.le_refl _), Nat.sub_self, List.set_cons_zero]

/-- Where there is no such call nothing happens; otherwise one call goes on, and its neighbours
stay as they are. -/
theorem step_cases (w : Pool σ) (m : Move) :
    w.calls[m.index]? = none ∧ w.step handle m = w ∨
      ∃ front p back, w.calls = front ++ p :: back ∧ front.length = m.index ∧
        w.step handle m = ⟨front ++ (p.step (handle m.now) w.store).1 :: back,
          (p.step (handle m.now) w.store).2⟩ := by
  cases hcall : w.calls[m.index]? with
  | none =>
    refine .inl ⟨rfl, ?_⟩
    rw [step, hcall]
  | some p =>
    obtain ⟨hlt, hp⟩ := List.getElem?_eq_some_iff.mp hcall
    have hcalls : w.calls = w.calls.take m.index ++ p :: w.calls.drop (m.index + 1) := by
      rw [← hp, List.getElem_cons_drop, List.take_append_drop]
    have hlength : (w.calls.take m.index).length = m.index := by
      rw [List.length_take, Nat.min_eq_left hlt.le]
    refine .inr ⟨_, p, _, hcalls, hlength, ?_⟩
    rw [← step_middle handle hlength, ← hcalls]

theorem proper_step {w : Pool Store} (h : ∀ p ∈ w.calls, p.Proper) (m : Move) :
    ∀ p ∈ (w.step Store.handle m).calls, p.Proper := by
  rcases step_cases Store.handle w m with ⟨-, hstep⟩ | ⟨front, p, back, hcalls, -, hstep⟩
  · rwa [hstep]
  rw [hcalls] at h
  rw [hstep]
  simp only [List.forall_mem_append, List.forall_mem_cons] at h ⊢
  exact ⟨h.1, h.2.1.step m.now w.store, h.2.2⟩

theorem run_preserves {P : Pool σ → Prop} (hstep : ∀ w m, P w → P (step handle w m))
    {w : Pool σ} (h : P w) (moves : List Move) : P (run handle w moves) := by
  induction moves generalizing w with
  | nil => exact h
  | cons m moves ih => exact ih (hstep w m h)

end Pool

end ChargingRegister.Registry
