import ChargingRegister.Identity
import ChargingRegister.Proofs.Store.Run
import ChargingRegister.Registry
import ChargingRegister.Store.Probe

/-!
# The calls that a program can make

Whatever the replies, a program makes calls of certain kinds only. A run then notes no others at
a probe, and it leaves alone what none of them changes. A store has two parts, its stations and
its accounts, and every kind of call can change at most one of them.
-/
namespace ChargingRegister

namespace Program

variable {α β : Type}

theorem bind_assoc {γ : Type} (p : Program α) (f : α → Program β) (g : β → Program γ) :
    (p.bind f).bind g = p.bind fun a => (f a).bind g := by
  induction p with
  | done a => rfl
  | call op next ih =>
    show Program.call op (fun reply => ((next reply).bind f).bind g) =
      Program.call op fun reply => (next reply).bind fun a => (f a).bind g
    simp only [ih]

theorem snd_run_call_of_done {σ : Type} {handle : Handler σ} {op : StoreOp}
    {next : StoreReply op → Program α} (h : ∀ reply, ∃ a, next reply = .done a) (s : σ) :
    ((Program.call op next).run handle s).2 = (handle op s).2 := by
  obtain ⟨a, ha⟩ := h (handle op s).1
  rw [run_call, ha, run_done]

/-- Every call of the program is of one of the kinds, whatever was replied before. -/
inductive CallsOnly (kinds : List StoreOp.Kind) : Program α → Prop
  | done (a : α) : CallsOnly kinds (.done a)
  | call {op : StoreOp} {next : StoreReply op → Program α} (hop : op.kind ∈ kinds)
    (hnext : ∀ reply, CallsOnly kinds (next reply)) : CallsOnly kinds (.call op next)

variable {kinds kinds' : List StoreOp.Kind} {p : Program α}

theorem CallsOnly.bind (hp : p.CallsOnly kinds) {f : α → Program β}
    (hf : ∀ a, (f a).CallsOnly kinds) : (p.bind f).CallsOnly kinds := by
  induction hp with
  | done a => exact hf a
  | call hop _ ih => exact .call hop ih

theorem CallsOnly.mono (hp : p.CallsOnly kinds) (h : kinds ⊆ kinds') : p.CallsOnly kinds' := by
  induction hp with
  | done a => exact .done a
  | call hop _ ih => exact .call (h hop) ih

theorem CallsOnly.perform (op : StoreOp) : (Program.perform op).CallsOnly [op.kind] :=
  .call (List.mem_singleton_self _) .done

/-- What no call of the kinds changes is as it was after the run. -/
theorem CallsOnly.run_preserves (hp : p.CallsOnly kinds) {σ γ : Type} {handle : Handler σ}
    (part : σ → γ) (hpart : ∀ op s, op.kind ∈ kinds → part (handle op s).2 = part s) (s : σ) :
    part (p.run handle s).2 = part s := by
  induction hp generalizing s with
  | done a => rfl
  | call hop _ ih =>
    rw [run_call, ih]
    exact hpart _ s hop

end Program

namespace StoreOp.Kind

def changesStations : Kind → Bool
  | .insert | .update | .delete => true
  | _ => false

def changesAccounts : Kind → Bool
  | .createAccount => true
  | _ => false

theorem changesStations_of_writes {k : Kind} (h : k.writes = false) :
    k.changesStations = false := by
  cases k with
  | insert | update | delete => cases h
  | _ => rfl

end StoreOp.Kind

namespace Store

/-- All that a store keeps of its stations: the records with the next number, or the table. -/
def stationPart : Store → (List Station × Int) ⊕ Option (Table StationRow)
  | .memory m => .inl (m.stations, m.nextStation)
  | .database db => .inr db.stations

def accountPart : Store → (List Account × Int) ⊕ Option (Table Account)
  | .memory m => .inl (m.accounts, m.nextAccount)
  | .database db => .inr db.accounts

theorem stationPart_handle {op : StoreOp} (h : op.kind.changesStations = false) (now : Instant)
    (s : Store) : (handle now op s).2.stationPart = s.stationPart := by
  cases s with
  | memory m =>
    cases op with
    | insert | update | delete => cases h
    | createAccount username passwordHash =>
      simp only [handle, MemoryStore.handle]
      split <;> rfl
    | _ => rfl
  | database db =>
    obtain ⟨t, u⟩ := db
    cases op with
    | insert | update | delete => cases h
    | findById | findAll | search => cases t <;> rfl
    | findAccount | createAccount | countAccounts => cases u <;> rfl

theorem accountPart_handle {op : StoreOp} (h : op.kind.changesAccounts = false) (now : Instant)
    (s : Store) : (handle now op s).2.accountPart = s.accountPart := by
  cases s with
  | memory m =>
    cases op with
    | createAccount => cases h
    | _ => rfl
  | database db =>
    obtain ⟨t, u⟩ := db
    cases op with
    | createAccount => cases h
    | findAccount | countAccounts => cases u <;> rfl
    | _ => cases t <;> rfl

end Store

namespace Probe

variable {σ : Type} (inner : Handler σ)

@[simp] theorem calls_handle (op : StoreOp) (w : Probe σ) :
    (handle inner op w).2.calls = w.calls ++ [op.kind] := by
  unfold handle
  split <;> rfl

/-- A probe that refuses a call leaves the store behind it alone. -/
theorem part_handle {γ : Type} {part : σ → γ} {op : StoreOp} {w : Probe σ}
    (h : part (inner op w.store).2 = part w.store) :
    part (handle inner op w).2.store = part w.store := by
  unfold handle
  split
  · rfl
  · exact h

/-- A run notes the kinds that the program can call and no others. -/
theorem calls_run {α : Type} {kinds : List StoreOp.Kind} {p : Program α}
    (hp : p.CallsOnly kinds) (w : Probe σ) :
    ∃ noted, (p.run (handle inner) w).2.calls = w.calls ++ noted ∧ ∀ k ∈ noted, k ∈ kinds := by
  induction hp generalizing w with
  | done a => exact ⟨[], (List.append_nil _).symm, fun _ hk => absurd hk List.not_mem_nil⟩
  | @call op next hop _ ih =>
    obtain ⟨noted, hcalls, hnoted⟩ := ih (handle inner op w).1 (handle inner op w).2
    refine ⟨op.kind :: noted, ?_, List.forall_mem_cons.mpr ⟨hop, hnoted⟩⟩
    rw [Program.run_call, hcalls, calls_handle, List.append_assoc, List.singleton_append]

end Probe

namespace Program

variable {α : Type} {kinds : List StoreOp.Kind} {p : Program α}

theorem CallsOnly.stationPart_run (hp : p.CallsOnly kinds)
    (hkinds : ∀ k ∈ kinds, k.changesStations = false) (now : Instant) (w : Probe Store) :
    (p.run (Probe.handle (Store.handle now)) w).2.store.stationPart = w.store.stationPart :=
  hp.run_preserves (fun w : Probe Store => w.store.stationPart)
    (fun _ w hop => Probe.part_handle _ (Store.stationPart_handle (hkinds _ hop) now w.store)) w

theorem CallsOnly.accountPart_run (hp : p.CallsOnly kinds)
    (hkinds : ∀ k ∈ kinds, k.changesAccounts = false) (now : Instant) (w : Probe Store) :
    (p.run (Probe.handle (Store.handle now)) w).2.store.accountPart = w.store.accountPart :=
  hp.run_preserves (fun w : Probe Store => w.store.accountPart)
    (fun _ w hop => Probe.part_handle _ (Store.accountPart_handle (hkinds _ hop) now w.store)) w

end Program

namespace Registry

theorem create_callsOnly (station : Station) : (create station).CallsOnly [.insert] := by
  unfold create
  split
  · exact .done _
  · exact .perform (.insert station)

theorem update_callsOnly (station : Station) : (update station).CallsOnly [.update] := by
  unfold update
  split
  · exact .done _
  · split
    · exact .done _
    · exact .perform (.update station)

theorem updateStatus_callsOnly (id : Int) (status : Status) :
    (updateStatus id status).CallsOnly [.findById, .update] := by
  unfold updateStatus
  split
  · exact .done _
  · refine .call List.mem_cons_self fun reply => ?_
    match reply with
    | .error _ => exact .done _
    | .ok none => exact .done _
    | .ok (some station) => exact (update_callsOnly _).mono (List.subset_cons_self _ _)

theorem delete_callsOnly (id : Int) : (delete id).CallsOnly [.delete] := by
  unfold delete
  split
  · exact .done _
  · exact .perform (.delete id)

theorem find_callsOnly (id : Int) : (find id).CallsOnly [.findById] := by
  unfold find
  split
  · exact .done _
  · exact .perform (.findById id)

theorem findAll_callsOnly : findAll.CallsOnly [.findAll] :=
  .call List.mem_cons_self fun _ => .done _

theorem search_callsOnly (text : String) : (search text).CallsOnly [.findAll, .search] := by
  unfold search
  split
  · exact findAll_callsOnly.mono (List.cons_subset_cons _ (List.nil_subset _))
  · exact .call (List.mem_cons_of_mem _ List.mem_cons_self) fun _ => .done _

theorem statistics_callsOnly : statistics.CallsOnly [.findAll] :=
  findAll_callsOnly.bind fun _ => .done _

end Registry

theorem Removal.runFrom_callsOnly (done : Removal) (ids : List Int) :
    (runFrom done ids).CallsOnly [.delete] := by
  induction ids generalizing done with
  | nil => exact .done _
  | cons id ids ih => exact (Registry.delete_callsOnly id).bind fun _ => ih _

namespace Identity

theorem authenticate_callsOnly (username password : String) :
    (authenticate username password).CallsOnly [.findAccount] := by
  unfold authenticate
  split
  · exact .done _
  · refine .call List.mem_cons_self fun reply => ?_
    match reply with
    | .error _ => exact .done _
    | .ok none => exact .done _
    | .ok (some _) => exact .done _

theorem openSession_callsOnly (t : Ticket) (signIn : SignIn) :
    (openSession t signIn).CallsOnly [.findAccount] := by
  cases signIn with
  | guest => exact .done _
  | credentials username password =>
    refine (authenticate_callsOnly username password).bind fun answer => ?_
    match answer with
    | .error _ => exact .done _
    | .ok false => exact .done _
    | .ok true => exact .done _

theorem restart_callsOnly (t : Ticket) (current : Session) (username password : String) :
    (restart t current username password).CallsOnly [.findAccount] := by
  refine (openSession_callsOnly t (.credentials username password)).bind fun answer => ?_
  match answer with
  | .error _ => exact .done _
  | .ok _ => exact .done _

end Identity

end ChargingRegister
