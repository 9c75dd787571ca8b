import Switchyard.Condition.Basic
import Switchyard.Json.Coercion
import Switchyard.Json.Equality
import Switchyard.Path
import Switchyard.Pattern.Basic
import Switchyard.Text.Search

/-! Checks: conditions with their path and pattern prepared. A check always has
an answer. What is missing or of another type, and a pattern that is none, is a
case in which an operator does not hold and its negation does. -/

namespace Switchyard

structure Check where
  path : Path
  operator : Operator
  operand : Option Json
  pattern : Option Pattern

namespace Check

def patternText? (c : Condition) : Option String :=
  match c.operator, c.value with
  | .regex, some (.str source) => some source
  | _, _ => none

def invalidPattern? (c : Condition) : Option String :=
  (patternText? c).filter fun source => (Pattern.compile? source).isNone

def ofCondition (c : Condition) : Check where
  path := .parse c.field
  operator := c.operator
  operand := c.value
  pattern := (patternText? c).bind Pattern.compile?

def onStrings (test : String → String → Bool) : Option Json → Option Json → Bool
  | some (.str s), some (.str t) => test s t
  | _, _ => false

def contains : Option Json → Option Json → Bool
  | some (.str s), some (.str needle) => Text.contains s needle
  | some (.arr items), operand => items.any fun item => Json.deepEqual? (some item) operand
  | _, _ => false

def isElement (field : Option Json) : Option Json → Bool
  | some (.arr items) => items.any fun item => Json.deepEqual? (some item) field
  | _ => false

def isTrue : Option Json → Bool
  | some (.bool b) => b
  | some (.str s) => s == "true"
  | some (.num n) => n.toBinary64.equal (.ofNat 1)
  | _ => false

def isFalse : Option Json → Bool
  | some (.bool b) => !b
  | some (.str s) => s == "false"
  | some (.num n) => n.toBinary64.equal .zero
  | _ => false

def onNumbers (test : Binary64 → Binary64 → Bool) (a b : Option Json) : Bool :=
  test (Json.toBinary64? a) (Json.toBinary64? b)

def searches (pattern : Option Pattern) : Option Json → Bool
  | some (.str s) =>
    match pattern with
    | some p => p.occursIn s
    | none => false
  | _ => false

def test (c : Check) (field : Option Json) : Bool :=
  match c.operator with
  | .equals => Json.deepEqual? field c.operand
  | .notEquals => !Json.deepEqual? field c.operand
  | .contains => contains field c.operand
  | .notContains => !contains field c.operand
  | .startsWith => onStrings Text.startsWith field c.operand
  | .endsWith => onStrings Text.endsWith field c.operand
  | .greaterThan => onNumbers (fun x y => y.less x) field c.operand
  | .lessThan => onNumbers Binary64.less field c.operand
  | .greaterThanOrEqual => onNumbers (fun x y => y.lessOrEqual x) field c.operand
  | .lessThanOrEqual => onNumbers Binary64.lessOrEqual field c.operand
  | .isEmpty => Json.isEmpty field
  | .isNotEmpty => !Json.isEmpty field
  | .isTrue => isTrue field
  | .isFalse => isFalse field
  | .regex => searches c.pattern field
  | .isIn => isElement field c.operand
  | .notIn => !isElement field c.operand

def holds (c : Check) (data : Json) : Bool := c.test (c.path.resolve data)

end Check

def Condition.holds (c : Condition) (data : Json) : Bool := (Check.ofCondition c).holds data

end Switchyard
