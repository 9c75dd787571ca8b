import Switchyard.Condition.Operator
import Switchyard.Decoding.Record

/-! Conditions: a check of the value at a path against an operand. The operand
may be absent, which differs from a `null` that is there. -/

namespace Switchyard

structure Condition where
  field : String
  operator : Operator
  value : Option Json
deriving Repr

namespace Condition

structure Draft where
  field : String := ""
  operator : Option Operator := none
  value : Option Json := none

def Draft.finish (d : Draft) : Except String Condition :=
  match d.operator with
  | none => .error "operator"
  | some operator => .ok ⟨d.field, operator, d.value⟩

def shape : Shape Draft Condition where
  name := "Condition"
  blank := {}
  fields :=
    [.of "field" .string fun x d => { d with field := x },
      .of "operator" Operator.decoder fun x d => { d with operator := some x },
      .of "value" .json fun x d => { d with value := some x }]
  finish := Draft.finish

def decoder : Decoder Condition := shape.decoder

def toJson (c : Condition) : Json :=
  .object [("field", some (.str c.field)), ("operator", some (.str c.operator.name)),
    ("value", c.value)]

end Condition

end Switchyard
