import Switchyard.Configuration.Basic

/-! Validation of configurations: the fallback output is an output or the sign
for none, route literals are scalars other than `null`, and, once these hold,
the collection that the mode selects is there. -/

namespace Switchyard

inductive Violation where
  | fallbackOutput (value : Int64)
  | routeLiteral (position : Nat) (value : Json)
  | missingRules
  | missingRoutes
deriving Repr

namespace Violation

def path : Violation → String
  | fallbackOutput _ => "fallback_output"
  | routeLiteral position _ => "routes[" ++ toString position ++ "].value"
  | missingRules => "__all__"
  | missingRoutes => "__all__"

def code : Violation → String
  | fallbackOutput _ => "range"
  | routeLiteral .. => "route_literal"
  | missingRules => "missing_rules"
  | missingRoutes => "missing_routes"

def message? : Violation → Option String
  | fallbackOutput _ => none
  | routeLiteral .. => some "route value must be a string, number or boolean"
  | missingRules => some "rules mode requires a `rules` list"
  | missingRoutes => some "expression mode requires a `routes` list"

def params : Violation → List (String × Option Json)
  | fallbackOutput value =>
    [("min", some (.num (.ofInt64 Configuration.noFallback))),
      ("value", some (.num (.ofInt64 value)))]
  | routeLiteral _ value => [("value", some value)]
  | missingRules => []
  | missingRoutes => []

end Violation

def Json.isLiteral : Json → Bool
  | .str _ | .num _ | .bool _ => true
  | _ => false

namespace Configuration

/-- Violations inside a configuration: its fallback output, and its routes even
if they are not in use. -/
def fieldViolations (c : Configuration) : List Violation :=
  (if c.fallbackOutput < noFallback then [.fallbackOutput c.fallbackOutput] else []) ++
    ((c.routes.getD []).mapIdx fun position r =>
      if r.value.isLiteral then [] else [.routeLiteral position r.value]).flatten

def modeViolations (c : Configuration) : List Violation :=
  match c.mode, c.rules, c.routes with
  | .rules, none, _ => [.missingRules]
  | .expression, _, none => [.missingRoutes]
  | _, _, _ => []

/-- All violations; the collections are looked at only if nothing else is wrong. -/
def violations (c : Configuration) : List Violation :=
  if c.fieldViolations.isEmpty then c.modeViolations else c.fieldViolations

def report (c : Configuration) : List Violation :=
  c.violations.mergeSort fun a b => !decide (b.path < a.path)

def isValid (c : Configuration) : Bool := c.violations.isEmpty

end Configuration

end Switchyard
