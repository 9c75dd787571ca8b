import Switchyard.Number

/-! JSON values. The members of an object are listed with their keys; values
read from a text list them in the order of their keys, each key once. -/

namespace Switchyard

inductive Json where
  | null
  | bool (b : Bool)
  | num (n : Number)
  | str (s : String)
  | arr (items : List Json)
  | obj (members : List (String × Json))
deriving Repr, Inhabited

namespace Json

def lookup (key : String) : List (String × Json) → Option Json
  | [] => none
  | (k, v) :: rest => if k = key then some v else lookup key rest

def insert (key : String) (value : Json) : List (String × Json) → List (String × Json)
  | [] => [(key, value)]
  | (k, v) :: rest =>
    if key < k then (key, value) :: (k, v) :: rest
    else if key = k then (key, value) :: rest
    else (k, v) :: insert key value rest

/-- An object from members in any order; of equal keys the last one counts. -/
def ofMembers (members : List (String × Json)) : Json :=
  .obj (members.foldl (fun ms (k, v) => insert k v ms) [])

def ofUInt64 (n : UInt64) : Json := .num (.ofUInt64 n)

def object (fields : List (String × Option Json)) : Json :=
  .obj (fields.filterMap fun (k, v) => v.map fun v => (k, v))

def Ascending (members : List (String × Json)) : Prop :=
  members.Pairwise fun a b => a.1 < b.1

mutual

def Ordered : Json → Prop
  | .arr items => OrderedItems items
  | .obj members => Ascending members ∧ OrderedMembers members
  | _ => True
termination_by structural v => v

def OrderedItems : List Json → Prop
  | [] => True
  | v :: vs => Ordered v ∧ OrderedItems vs
termination_by structural vs => vs

def OrderedMembers : List (String × Json) → Prop
  | [] => True
  | (_, v) :: ms => Ordered v ∧ OrderedMembers ms
termination_by structural ms => ms

end

end Json

end Switchyard
