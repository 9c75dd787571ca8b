import Switchyard.Configuration.Basic
import Switchyard.Decoding.Record
import Switchyard.Text.Blank

/-! Output ports: one for each branch in use, and one for the fallback. -/

namespace Switchyard

structure Port where
  id : String
  label : String
deriving DecidableEq, Repr

namespace Port

structure Draft where
  id : Option String := none
  label : Option String := none

def Draft.finish (d : Draft) : Except String Port :=
  match d.id, d.label with
  | none, _ => .error "id"
  | some _, none => .error "label"
  | some id, some label => .ok ⟨id, label⟩

def shape : Shape Draft Port where
  name := "OutputPort"
  blank := {}
  fields :=
    [.of "id" .string fun x d => { d with id := some x },
      .of "label" .string fun x d => { d with label := some x }]
  finish := Draft.finish

def decoder : Decoder Port := shape.decoder

def toJson (p : Port) : Json := .object [("id", some (.str p.id)), ("label", some (.str p.label))]

def labelOf (name : Option String) (outputIndex : UInt64) : String :=
  match name.map Text.trim with
  | none => "Output " ++ toString outputIndex.toNat
  | some label => if label = "" then "Output " ++ toString outputIndex.toNat else label

def ofBranch (position : Nat) (name : Option String) (outputIndex : UInt64) : Port :=
  ⟨"route" ++ toString position, labelOf name outputIndex⟩

def ofFallback : Port := ⟨"fallback", "Fallback"⟩

end Port

namespace Configuration

def branches (c : Configuration) : List (Option String × UInt64) :=
  match c.mode with
  | .rules => c.activeRules.map fun r => (r.name, r.outputIndex)
  | .expression => c.activeRoutes.map fun r => (r.name, r.outputIndex)

def ports (c : Configuration) : List Port :=
  c.branches.mapIdx (fun position (name, outputIndex) => .ofBranch position name outputIndex) ++
    if c.fallback.isSome then [.ofFallback] else []

end Configuration

end Switchyard
