import ChargingRegister.Console.Execution

/-!
# Commands as they print

A dialogue calls the store as a program does, and prints reports on the way. What is printed is not
taken back, whatever the calls after it come to. A command prints in the branch in which it has
something to report; a call that fails ends it.
-/
namespace ChargingRegister

inductive Dialogue (α : Type) where
  | done (value : α)
  | call (op : StoreOp) (next : StoreReply op → Dialogue α)
  | print (report : Report) (next : Dialogue α)

namespace Dialogue

def bind {α β : Type} : Dialogue α → (α → Dialogue β) → Dialogue β
  | .done a, f => f a
  | .call op next, f => .call op fun reply => (next reply).bind f
  | .print report next, f => .print report (next.bind f)

/-- A program is a dialogue that prints nothing. -/
def ofProgram {α : Type} : Program α → Dialogue α
  | .done a => .done a
  | .call op next => .call op fun reply => ofProgram (next reply)

/-- What a dialogue comes to. -/
structure Ending (σ α : Type) where
  value : α
  /-- The reports in the order in which they were printed. -/
  printed : List Report
  store : σ

def run {σ α : Type} (handle : Handler σ) : Dialogue α → σ → Ending σ α
  | .done a, s => ⟨a, [], s⟩
  | .call op next, s => (next (handle op s).1).run handle (handle op s).2
  | .print report next, s =>
    let ending := next.run handle s
    { ending with printed := report :: ending.printed }

def text (form : Report.Form) (printed : List Report) : String :=
  String.join (printed.map (Report.render form))

end Dialogue

namespace Command

def say (report : Report) : Dialogue (Result Unit) :=
  .print report (.done (.ok ()))

/-- Goes on with what a program answers; a failure ends the dialogue. -/
def onSuccess {α : Type} (p : Program (Result α)) (next : α → Dialogue (Result Unit)) :
    Dialogue (Result Unit) :=
  (Dialogue.ofProgram p).bind fun
    | .error e => .done (.error e)
    | .ok a => next a

def converse : Command → Dialogue (Result Unit)
  | .list text status => (Dialogue.ofProgram Snapshot.loadAll).bind fun snapshot =>
    say (.stations (snapshot.filter text status) snapshot.size)
  | .search text => (Dialogue.ofProgram (Registry.search text)).bind fun found =>
    say (.stations found found.length)
  | .inspect id => onSuccess (Registry.find id) fun
    | some station => say (.station station)
    | none => .done (.error (Registry.notFound id))
  | .tally => (Dialogue.ofProgram Registry.statistics).bind fun counts => say (.tally counts)
  | .statuses => say .statuses
  | .add name location status =>
    onSuccess (Registry.create (.draft name location status)) fun created => say (.station created)
  | .update id patch =>
    match Registry.checkId "update" id with
    | .error e => .done (.error e)
    | .ok () => onSuccess (Registry.find id) fun
      | none => .done (.error (Registry.notFound id))
      | some station => onSuccess (Registry.update (patch.apply station)) fun updated =>
        say (.outcome "update" id updated)
  | .setStatus id status => onSuccess (Registry.updateStatus id status) fun updated =>
    say (.outcome "update_status" id updated)
  | .delete ids => (Dialogue.ofProgram (Removal.run ids)).bind fun summary =>
    say (.removal summary)

def dialogue (session : Session) (c : Command) : Dialogue (Result Unit) :=
  match c.gate session with
  | .error e => .done (.error e)
  | .ok () => c.converse

end Command

end ChargingRegister
