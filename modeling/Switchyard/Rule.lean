import Switchyard.Condition.Basic

/-! Rules: conditions that together send data to an output. A rule without
conditions holds of everything. -/

namespace Switchyard

inductive Combination where
  | all
  | any
deriving DecidableEq, Repr

structure Rule where
  conditions : List Condition
  combination : Combination
  outputIndex : UInt64
  name : Option String
deriving Repr

namespace Combination

def name : Combination → String
  | all => "and"
  | any => "or"

def ofName? (s : String) : Option Combination :=
  let lower := s.toList.map Char.toLower
  if lower = "and".toList then some all
  else if lower = "or".toList then some any
  else none

def decoder : Decoder Combination :=
  .variant [("AND", all), ("and", all), ("OR", any), ("or", any)]

end Combination

namespace Rule

structure Draft where
  conditions : List Condition := []
  combination : Combination := .all
  outputIndex : Option UInt64 := none
  name : Option String := none

def Draft.finish (d : Draft) : Except String Rule :=
  match d.outputIndex with
  | none => .error "outputIndex"
  | some outputIndex => .ok ⟨d.conditions, d.combination, outputIndex, d.name⟩

def shape : Shape Draft Rule where
  name := "Rule"
  blank := {}
  fields :=
    [.of "conditions" (.list Condition.decoder) fun x d => { d with conditions := x },
      .of "combineWith" Combination.decoder fun x d => { d with combination := x },
      .of "outputIndex" .index fun x d => { d with outputIndex := some x },
      .of "name" (.optional .string) fun x d => { d with name := x }]
  finish := Draft.finish

def decoder : Decoder Rule := shape.decoder

def toJson (r : Rule) : Json :=
  .object [("conditions", some (.arr (r.conditions.map Condition.toJson))),
    ("combineWith", some (.str r.combination.name)),
    ("outputIndex", some (.ofUInt64 r.outputIndex)), ("name", r.name.map .str)]

end Rule

end Switchyard
