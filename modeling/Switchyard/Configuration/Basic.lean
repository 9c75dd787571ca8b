import Switchyard.Route
import Switchyard.Rule

/-! The configuration of a switch. Its mode selects rules or routes; the other
collection is not used, even if it is there. -/

namespace Switchyard

inductive Mode where
  | rules
  | expression
deriving DecidableEq, Repr

structure Configuration where
  mode : Mode
  valueToMatch : Option Json
  rules : Option (List Rule)
  routes : Option (List Route)
  fallbackOutput : Int64
  allowMultipleMatches : Bool
deriving Repr

namespace Mode

def name : Mode → String
  | rules => "rules"
  | expression => "expression"

def ofName? (s : String) : Option Mode :=
  if s = "rules" then some rules else if s = "expression" then some expression else none

def decoder : Decoder Mode := .variant [("rules", rules), ("expression", expression)]

end Mode

namespace Configuration

def noFallback : Int64 := -1

structure Draft where
  mode : Option Mode := none
  valueToMatch : Option Json := none
  rules : Option (List Rule) := none
  routes : Option (List Route) := none
  fallbackOutput : Int64 := noFallback
  allowMultipleMatches : Bool := false

def Draft.finish (d : Draft) : Except String Configuration :=
  match d.mode with
  | none => .error "mode"
  | some mode =>
    .ok ⟨mode, d.valueToMatch, d.rules, d.routes, d.fallbackOutput, d.allowMultipleMatches⟩

def shape : Shape Draft Configuration where
  name := "RoutingConfiguration"
  blank := {}
  fields :=
    [.of "mode" Mode.decoder fun x d => { d with mode := some x },
      .of "valueToMatch" .json fun x d => { d with valueToMatch := some x },
      .of "rules" (.optional (.list Rule.decoder)) fun x d => { d with rules := x },
      .of "routes" (.optional (.list Route.decoder)) fun x d => { d with routes := x },
      .of "fallbackOutput" .int64 fun x d => { d with fallbackOutput := x },
      .of "allowMultipleMatches" .bool fun x d => { d with allowMultipleMatches := x }]
  finish := Draft.finish

def decoder : Decoder Configuration := shape.decoder

def ofText (text : String) : Except Json.TextFault Configuration := decoder.ofText text

def toJson (c : Configuration) : Json :=
  .object [("mode", some (.str c.mode.name)), ("valueToMatch", c.valueToMatch),
    ("rules", c.rules.map fun rs => .arr (rs.map Rule.toJson)),
    ("routes", c.routes.map fun rs => .arr (rs.map Route.toJson)),
    ("fallbackOutput", some (.num (.ofInt64 c.fallbackOutput))),
    ("allowMultipleMatches", some (.bool c.allowMultipleMatches))]

def ofRules (rules : List Rule) : Configuration :=
  ⟨.rules, none, some rules, none, noFallback, false⟩

def ofExpression (value : Json) (routes : List Route) : Configuration :=
  ⟨.expression, some value, none, some routes, noFallback, false⟩

/-- Sends unmatched data to an output; indices that do not fit are clamped. -/
def withFallback (c : Configuration) (index : UInt64) : Configuration :=
  { c with fallbackOutput := .ofInt (min index.toNat 0x7FFFFFFFFFFFFFFF) }

def withMultipleMatches (c : Configuration) (allow : Bool) : Configuration :=
  { c with allowMultipleMatches := allow }

/-- The output for unmatched data; negative ones stand for none. -/
def fallback (c : Configuration) : Option UInt64 :=
  if 0 ≤ c.fallbackOutput.toInt then some (.ofNat c.fallbackOutput.toInt.toNat) else none

def activeRules (c : Configuration) : List Rule :=
  match c.mode with
  | .rules => c.rules.getD []
  | .expression => []

def activeRoutes (c : Configuration) : List Route :=
  match c.mode with
  | .rules => []
  | .expression => c.routes.getD []

end Configuration

end Switchyard
