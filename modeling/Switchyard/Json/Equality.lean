import Switchyard.Json.Basic

/-! Equality of values: deep equality compares everything, strict equality only
scalars. Numbers compare by value, and objects by keys in any order. -/

namespace Switchyard.Json

mutual

def deepEqual : Json → Json → Bool
  | .null, .null => true
  | .bool a, .bool b => a == b
  | .num a, .num b => a.equal b
  | .str a, .str b => a == b
  | .arr as, .arr bs => as.length == bs.length && deepEqualItems as bs
  | .obj as, .obj bs => as.length == bs.length && deepEqualMembers as bs
  | _, _ => false
termination_by structural a => a

def deepEqualItems : List Json → List Json → Bool
  | a :: as, b :: bs => deepEqual a b && deepEqualItems as bs
  | _, _ => true
termination_by structural as => as

def deepEqualMembers : List (String × Json) → List (String × Json) → Bool
  | [], _ => true
  | (k, a) :: as, bs =>
    (match lookup k bs with
      | some b => deepEqual a b
      | none => false) && deepEqualMembers as bs
termination_by structural as => as

end

/-- Deep equality of values that may be absent: absence equals only absence. -/
def deepEqual? : Option Json → Option Json → Bool
  | none, none => true
  | some a, some b => deepEqual a b
  | _, _ => false

def strictEqual : Json → Json → Bool
  | .null, .null => true
  | .bool a, .bool b => a == b
  | .num a, .num b => a.equal b
  | .str a, .str b => a == b
  | _, _ => false

def isEmpty : Option Json → Bool
  | none => true
  | some .null => true
  | some (.str s) => s == ""
  | some (.arr items) => items.isEmpty
  | some (.obj members) => members.isEmpty
  | some _ => false

end Switchyard.Json
