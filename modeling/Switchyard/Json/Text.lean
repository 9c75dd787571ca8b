import Switchyard.Json.Reader.Value

/-! JSON texts: reading a whole text, and the position of a fault in it. -/

namespace Switchyard.Json

/-- A line, counted from 1, and the number of its bytes that were read. -/
structure Position where
  line : Nat
  column : Nat
deriving DecidableEq, Repr

def Position.after (read : List UInt8) : Position :=
  let newline : UInt8 := 10
  ⟨read.count newline + 1, (read.reverse.takeWhile (· != newline)).length⟩

structure TextFault where
  fault : Fault
  position : Position
deriving DecidableEq, Repr

def TextFault.message (f : TextFault) : String :=
  f.fault.message ++ " at line " ++ toString f.position.line ++ " column " ++
    toString f.position.column

def Reader.Located.locate (text : String) (l : Reader.Located) : TextFault :=
  let all := text.toUTF8.toList
  ⟨l.fault, .after (all.take (all.length - l.unread))⟩

def Reader.run {α : Type} (reader : (depth : Nat) → List Char → Reader.Result (α × List Char))
    (text : String) : Except TextFault α :=
  match Reader.atEnd (reader Reader.depthLimit text.toList) with
  | .error l => .error (l.locate text)
  | .ok a => .ok a

def read (text : String) : Except TextFault Json := Reader.run Reader.value text

end Switchyard.Json
