import Switchyard.Unicode.Age
import Switchyard.Unicode.Binary
import Switchyard.Unicode.Category
import Switchyard.Unicode.Script
import Switchyard.Unicode.Segmentation

/-! Sets of characters by the names of their properties. Names match loosely:
case, blanks, underscores, hyphens and a leading `is` do not count. -/

namespace Switchyard.Unicode

def normalize (cs : List Char) : String :=
  let loose (cs : List Char) : List Char :=
    (cs.filter fun c => c != ' ' && c != '_' && c != '-' && c.toNat < 0x80).map Char.toLower
  let (is, rest) := match cs with
    | i :: s :: rest =>
      if (i = 'i' ∨ i = 'I') ∧ (s = 's' ∨ s = 'S') then (true, loose rest) else (false, loose cs)
    | cs => (false, loose cs)
  -- `isc` is the short name of a property, not another name of a category.
  String.ofList (if is && rest == ['c'] then "isc".toList else rest)

def category? (name : String) : Option CharSet :=
  match name with
  | "any" => some .full
  | "ascii" => some .ascii
  | "assigned" => (find? Category.table "cn").map CharSet.complement
  | name =>
    match Category.groups.find? fun (names, _) => names.contains name with
    | some (_, members) => some (.unionAll (members.filterMap (find? Category.table)))
    | none => find? Category.table name

def script? (name : String) : Option CharSet := find? Script.table name

def scriptExtensions? (name : String) : Option CharSet :=
  (find? Script.extensions name).orElse fun _ => script? name

def age? (version : String) : Option CharSet :=
  let isIt (p : Property) : Bool := p.names.contains version
  if Age.table.any isIt then
    let earlier := Age.table.takeWhile (!isIt ·)
    some (.unionAll ((earlier ++ Age.table.filter isIt).map Property.set))
  else none

/-- Short names of categories that are also short names of other properties. -/
def categoryFirst : List String := ["cf", "sc", "lc"]

def named? (name : List Char) : Option CharSet :=
  let name := normalize name
  let binary := if categoryFirst.contains name then none else find? Binary.table name
  binary.orElse fun _ => (category? name).orElse fun _ => script? name

def valued? (property value : List Char) : Option CharSet :=
  let value := normalize value
  match normalize property with
  | "gc" | "generalcategory" => category? value
  | "sc" | "script" => script? value
  | "scx" | "scriptextensions" => scriptExtensions? value
  | "age" => age? value
  | "gcb" | "graphemeclusterbreak" => find? Segmentation.grapheme value
  | "wb" | "wordbreak" => find? Segmentation.word value
  | "sb" | "sentencebreak" => find? Segmentation.sentence value
  | _ => none

def digits : CharSet := (find? Category.table "nd").getD .empty

def blanks : CharSet := (find? Binary.table "whitespace").getD .empty

def words : CharSet :=
  .unionAll ((["alphabetic", "joincontrol"].filterMap (find? Binary.table)) ++
    ["m", "nd", "pc"].filterMap category?)

end Switchyard.Unicode
