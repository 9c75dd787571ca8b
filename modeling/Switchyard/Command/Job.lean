import Switchyard.Log.Event

/-! Jobs: computations that write to standard output and log events on their
way, and that may fail. What was written before a failure stays written. -/

namespace Switchyard

structure Journal where
  output : String := ""
  events : Array Log.Event := #[]

abbrev Job (ε : Type) (m : Type → Type) (α : Type) := ExceptT ε (StateT Journal m) α

namespace Job

variable {ε : Type} {m : Type → Type} [Monad m]

def log (e : Log.Event) : Job ε m Unit := modify fun j => { j with events := j.events.push e }

def logAll : List Log.Event → Job ε m Unit
  | [] => pure ()
  | e :: rest => do
    log e
    logAll rest

def write (text : String) : Job ε m Unit := modify fun j => { j with output := j.output ++ text }

def ask {α : Type} (question : m α) : Job ε m α := ExceptT.lift (StateT.lift question)

def require {α : Type} : Except ε α → Job ε m α
  | .ok a => pure a
  | .error e => throw e

end Job

end Switchyard
