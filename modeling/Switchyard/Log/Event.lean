import Switchyard.Json.Basic

/-! Log events. -/

namespace Switchyard.Log

inductive Level where
  | trace
  | debug
  | info
  | warn
  | error
deriving DecidableEq, Repr

namespace Level

def weight : Level → Nat
  | trace => 1
  | debug => 2
  | info => 3
  | warn => 4
  | error => 5

def name : Level → String
  | trace => "TRACE"
  | debug => "DEBUG"
  | info => "INFO"
  | warn => "WARN"
  | error => "ERROR"

end Level

structure Event where
  level : Level
  target : String
  message : String
  fields : List (String × Option Json)
deriving Repr

def Event.toJson (e : Event) : Json :=
  .object [("level", some (.str e.level.name)),
    ("fields", some (.object (("message", some (.str e.message)) :: e.fields))),
    ("target", some (.str e.target))]

end Switchyard.Log
