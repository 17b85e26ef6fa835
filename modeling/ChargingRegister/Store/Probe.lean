import ChargingRegister.Store.Operation

/-!
# A store that is watched and can fail

The probe stands before another store. It notes the kind of every call, in order, and refuses the
kinds on its list without passing the call on.
-/
namespace ChargingRegister

structure Probe (σ : Type) where
  store : σ
  failing : List StoreOp.Kind
  /-- The text of a refusal. -/
  cause : String
  calls : List StoreOp.Kind

namespace Probe

def refusal {σ : Type} (p : Probe σ) (op : StoreOp) : RegistryError :=
  .storageFailure op.kind.name p.cause

def handle {σ : Type} (inner : Handler σ) : Handler (Probe σ) := fun op p =>
  let noted := { p with calls := p.calls ++ [op.kind] }
  if p.failing.contains op.kind then (.error (p.refusal op), noted)
  else
    let after := inner op p.store
    (after.1, { noted with store := after.2 })

end Probe

end ChargingRegister
