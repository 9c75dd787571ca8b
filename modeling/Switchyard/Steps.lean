import Switchyard.Configuration.Basic

/-! Steps: rules and configurations are built step by step. A builder remembers which
fields have been set, and is finished once those without a default have been. -/

namespace Switchyard

structure Incomplete where
  field : String
deriving DecidableEq, Repr

def Incomplete.message (i : Incomplete) : String :=
  "incomplete definition: Field not initialized: " ++ i.field

namespace Configuration

inductive Step where
  | withMode (mode : Mode)
  | withValueToMatch (value : Json)
  | withRules (rules : List Rule)
  | withRoutes (routes : List Route)
  | withFallbackOutput (value : Int64)
  | withAllowMultipleMatches (allow : Bool)
  | addRule (rule : Rule)
  | addRoute (route : Route)
deriving Repr

/-- What has been set so far. A field that may be absent can be set to nothing, which
differs from not being set. -/
structure Builder where
  mode : Option Mode := none
  valueToMatch : Option (Option Json) := none
  rules : Option (Option (List Rule)) := none
  routes : Option (Option (List Route)) := none
  fallbackOutput : Option Int64 := none
  allowMultipleMatches : Option Bool := none

namespace Builder

/-- Adds to the end of a list, which is started if it is not set or set to nothing. -/
def append {α : Type} (setting : Option (Option (List α))) (item : α) : Option (Option (List α)) :=
  some (some ((setting.getD none).getD [] ++ [item]))

def apply (b : Builder) : Step → Builder
  | .withMode mode => { b with mode := some mode }
  | .withValueToMatch value => { b with valueToMatch := some (some value) }
  | .withRules rules => { b with rules := some (some rules) }
  | .withRoutes routes => { b with routes := some (some routes) }
  | .withFallbackOutput value => { b with fallbackOutput := some value }
  | .withAllowMultipleMatches allow => { b with allowMultipleMatches := some allow }
  | .addRule rule => { b with rules := append b.rules rule }
  | .addRoute route => { b with routes := append b.routes route }

def finish (b : Builder) : Except Incomplete Configuration :=
  match b.mode with
  | none => .error ⟨"mode"⟩
  | some mode =>
    .ok
      { mode
        valueToMatch := b.valueToMatch.getD none
        rules := b.rules.getD none
        routes := b.routes.getD none
        fallbackOutput := b.fallbackOutput.getD noFallback
        allowMultipleMatches := b.allowMultipleMatches.getD false }

end Builder

def build (steps : List Step) : Except Incomplete Configuration :=
  (steps.foldl Builder.apply {}).finish

end Configuration

namespace Rule

inductive Step where
  | withConditions (conditions : List Condition)
  | withCombination (combination : Combination)
  | withOutputIndex (index : UInt64)
  | withName (name : String)
  | addCondition (condition : Condition)
deriving Repr

structure Builder where
  conditions : Option (List Condition) := none
  combination : Option Combination := none
  outputIndex : Option UInt64 := none
  name : Option (Option String) := none

namespace Builder

def apply (b : Builder) : Step → Builder
  | .withConditions conditions => { b with conditions := some conditions }
  | .withCombination combination => { b with combination := some combination }
  | .withOutputIndex index => { b with outputIndex := some index }
  | .withName name => { b with name := some (some name) }
  | .addCondition condition => { b with conditions := some (b.conditions.getD [] ++ [condition]) }

def finish (b : Builder) : Except Incomplete Rule :=
  match b.outputIndex with
  | none => .error ⟨"output_index"⟩
  | some outputIndex =>
    .ok
      { conditions := b.conditions.getD []
        combination := b.combination.getD .all
        outputIndex
        name := b.name.getD none }

end Builder

def build (steps : List Step) : Except Incomplete Rule :=
  (steps.foldl Builder.apply {}).finish

end Rule

end Switchyard
