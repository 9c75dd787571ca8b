import Switchyard.Decoding.Basic

/-! The operators of conditions and their names. -/

namespace Switchyard

inductive Operator where
  | equals
  | notEquals
  | contains
  | notContains
  | startsWith
  | endsWith
  | greaterThan
  | lessThan
  | greaterThanOrEqual
  | lessThanOrEqual
  | isEmpty
  | isNotEmpty
  | isTrue
  | isFalse
  | regex
  | isIn
  | notIn
deriving DecidableEq, Repr

namespace Operator

def all : List Operator :=
  [equals, notEquals, contains, notContains, startsWith, endsWith, greaterThan, lessThan,
    greaterThanOrEqual, lessThanOrEqual, isEmpty, isNotEmpty, isTrue, isFalse, regex, isIn, notIn]

def name : Operator → String
  | equals => "equals"
  | notEquals => "notEquals"
  | contains => "contains"
  | notContains => "notContains"
  | startsWith => "startsWith"
  | endsWith => "endsWith"
  | greaterThan => "greaterThan"
  | lessThan => "lessThan"
  | greaterThanOrEqual => "greaterThanOrEqual"
  | lessThanOrEqual => "lessThanOrEqual"
  | isEmpty => "isEmpty"
  | isNotEmpty => "isNotEmpty"
  | isTrue => "isTrue"
  | isFalse => "isFalse"
  | regex => "regex"
  | isIn => "in"
  | notIn => "notIn"

def ofName? (s : String) : Option Operator := all.find? (·.name = s)

def isUnary : Operator → Bool
  | isEmpty | isNotEmpty | isTrue | isFalse => true
  | _ => false

def isNumeric : Operator → Bool
  | greaterThan | lessThan | greaterThanOrEqual | lessThanOrEqual => true
  | _ => false

def decoder : Decoder Operator := .variant (all.map fun op => (op.name, op))

theorem ofName?_name (op : Operator) : ofName? op.name = some op := by cases op <;> decide

end Operator

end Switchyard
