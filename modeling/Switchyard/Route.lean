import Switchyard.Decoding.Record

/-! Routes: literal values that send data to an output. -/

namespace Switchyard

structure Route where
  value : Json
  outputIndex : UInt64
  name : Option String
deriving Repr

namespace Route

structure Draft where
  value : Option Json := none
  outputIndex : Option UInt64 := none
  name : Option String := none

def Draft.finish (d : Draft) : Except String Route :=
  match d.value, d.outputIndex with
  | none, _ => .error "value"
  | some _, none => .error "outputIndex"
  | some value, some outputIndex => .ok ⟨value, outputIndex, d.name⟩

def shape : Shape Draft Route where
  name := "Route"
  blank := {}
  fields :=
    [.of "value" .json fun x d => { d with value := some x },
      .of "outputIndex" .index fun x d => { d with outputIndex := some x },
      .of "name" (.optional .string) fun x d => { d with name := x }]
  finish := Draft.finish

def decoder : Decoder Route := shape.decoder

def toJson (r : Route) : Json :=
  .object [("value", some r.value), ("outputIndex", some (.ofUInt64 r.outputIndex)),
    ("name", r.name.map .str)]

end Route

end Switchyard
