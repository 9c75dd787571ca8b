import Switchyard.Json.Printer
import Switchyard.Log.Event
import Switchyard.Router.Basic

/-! The trace of a router: what is reported when a configuration is prepared,
and when a value is routed. -/

namespace Switchyard

namespace Router

inductive Report where
  | invalidPattern (source : String)
  | prepared (mode : Mode) (branches : Nat) (fallback : Option UInt64) (allowMultiple : Bool)
  | matched (mode : Mode) (branch : Match)
  | routed (outputs : List UInt64)
deriving Repr

def preparation (c : Configuration) : List Report :=
  let router := ofConfiguration c
  (c.activeRules.flatMap fun r => r.conditions.filterMap Check.invalidPattern?).map
      .invalidPattern ++
    [.prepared c.mode router.branchCount router.fallback router.allowMultipleMatches]

def mode (r : Router) : Mode :=
  match r.strategy with
  | .rules _ => .rules
  | .expression .. => .expression

def routing (r : Router) (data : Json) : List Report :=
  let ms := r.matchesOf data
  ms.map (.matched r.mode) ++ [.routed (r.outputsOf ms)]

end Router

def Configuration.trace (c : Configuration) (data : Json) : List Router.Report :=
  Router.preparation c ++ (Router.ofConfiguration c).routing data

def showOutputs (outputs : List UInt64) : String :=
  "[" ++ ", ".intercalate (outputs.map fun n => toString n.toNat) ++ "]"

def showFallback : Option UInt64 → String
  | none => "None"
  | some n => "Some(" ++ toString n.toNat ++ ")"

/-- The log event of a report. Of a text that is no pattern the event also says, in a field
`error`, what the compiler of patterns found wrong with it; that field is not modelled. -/
def Router.Report.event : Router.Report → Log.Event
  | invalidPattern source =>
    { level := .debug
      target := "nvisy_switch::router"
      message := "Invalid regex operand, condition will never match"
      fields := [("pattern", some (.str source))] }
  | prepared mode branches fallback allowMultiple =>
    { level := .debug
      target := "nvisy_switch::router"
      message := "Switch router compiled"
      fields :=
        [("mode", some (.str mode.name)), ("branches", some (.ofUInt64 (.ofNat branches))),
          ("fallback", some (.str (showFallback fallback))),
          ("allow_multiple_matches", some (.bool allowMultiple))] }
  | matched mode branch =>
    { level := .trace
      target := "nvisy_switch::router"
      message := match mode with
        | .rules => "Rule matched"
        | .expression => "Route matched"
      fields :=
        [("position", some (.ofUInt64 (.ofNat branch.position))),
          ("output_index", some (.ofUInt64 branch.outputIndex)),
          ("name", branch.name.map .str)] }
  | routed outputs =>
    { level := .trace
      target := "nvisy_switch::router"
      message := "Input routed"
      fields := [("matched_outputs", some (.str (showOutputs outputs)))] }

end Switchyard
