import Switchyard.Condition.Check
import Switchyard.Configuration.Basic

/-! Routers: configurations made ready for use. A router tries its branches in
the order of their declaration, stops at the first match unless all are wanted,
and falls back when nothing matched. -/

namespace Switchyard

structure RuleCheck where
  checks : List Check
  combination : Combination
  outputIndex : UInt64
  name : Option String

namespace RuleCheck

def ofRule (r : Rule) : RuleCheck where
  checks := r.conditions.map Check.ofCondition
  combination := r.combination
  outputIndex := r.outputIndex
  name := r.name

def holds (r : RuleCheck) (data : Json) : Bool :=
  r.checks.isEmpty ||
    match r.combination with
    | .all => r.checks.all (·.holds data)
    | .any => r.checks.any (·.holds data)

end RuleCheck

def Rule.holds (r : Rule) (data : Json) : Bool := (RuleCheck.ofRule r).holds data

inductive Strategy where
  | rules (rules : List RuleCheck)
  | expression (valueToMatch : Option Json) (routes : List Route)

structure Router where
  strategy : Strategy
  fallback : Option UInt64
  allowMultipleMatches : Bool

structure Match where
  position : Nat
  outputIndex : UInt64
  name : Option String
deriving DecidableEq, Repr

namespace Router

def ofConfiguration (c : Configuration) : Router where
  strategy := match c.mode with
    | .rules => .rules (c.activeRules.map RuleCheck.ofRule)
    | .expression => .expression c.valueToMatch c.activeRoutes
  fallback := c.fallback
  allowMultipleMatches := c.allowMultipleMatches

def branchCount (r : Router) : Nat :=
  match r.strategy with
  | .rules rules => rules.length
  | .expression _ routes => routes.length

def scan {β : Type} (multiple : Bool) (holds : β → Bool) (describe : Nat → β → Match) :
    (position : Nat) → List β → List Match
  | _, [] => []
  | position, b :: rest =>
    if holds b then
      describe position b ::
        (if multiple then scan multiple holds describe (position + 1) rest else [])
    else scan multiple holds describe (position + 1) rest

/-- The branches that match a value. An absent value to match equals nothing. -/
def matchesOf (r : Router) (data : Json) : List Match :=
  match r.strategy with
  | .rules rules =>
    scan r.allowMultipleMatches (·.holds data)
      (fun position rule => ⟨position, rule.outputIndex, rule.name⟩) 0 rules
  | .expression none _ => []
  | .expression (some v) routes =>
    scan r.allowMultipleMatches (fun route => v.strictEqual route.value)
      (fun position route => ⟨position, route.outputIndex, route.name⟩) 0 routes

def outputsOf (r : Router) : List Match → List UInt64
  | [] => r.fallback.toList
  | ms => ms.map Match.outputIndex

def route (r : Router) (data : Json) : List UInt64 := r.outputsOf (r.matchesOf data)

end Router

def Configuration.route (c : Configuration) (data : Json) : List UInt64 :=
  (Router.ofConfiguration c).route data

structure Outcome where
  matchedOutputs : List UInt64
  data : Json
deriving Repr

namespace Outcome

def isDropped (o : Outcome) : Bool := o.matchedOutputs.isEmpty

def routesTo (o : Outcome) (index : UInt64) : Bool := o.matchedOutputs.contains index

def toJson (o : Outcome) : Json :=
  .object [("matchedOutputs", some (.arr (o.matchedOutputs.map .ofUInt64))), ("data", some o.data)]

end Outcome

def Router.outcome (r : Router) (data : Json) : Outcome := ⟨r.route data, data⟩

end Switchyard
