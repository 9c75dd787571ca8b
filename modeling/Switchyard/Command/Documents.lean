import Switchyard.Json.Text
import Switchyard.Text.Blank

/-! Input documents: one document in a text, or one in each line of it that is
not blank. -/

namespace Switchyard

inductive DocumentFault where
  | document (fault : Json.TextFault)
  | line (number : Nat) (fault : Json.TextFault)
deriving DecidableEq, Repr

def DocumentFault.message : DocumentFault → String
  | document fault => "invalid JSON document: " ++ fault.message
  | line number fault => "invalid JSON on line " ++ toString number ++ ": " ++ fault.message

namespace Documents

def dropReturn (line : List Char) : List Char :=
  if line.getLast? = some '\r' then line.dropLast else line

/-- The lines of a text. What follows the last line end is a line unless it is
empty, and keeps a carriage return at its end. -/
def lines (cs : List Char) : List (List Char) :=
  let parts := cs.splitOn '\n'
  parts.dropLast.map dropReturn ++ parts.getLast?.toList.filter (!·.isEmpty)

def isBlank (line : List Char) : Bool := line.all Text.isBlank

def readLines : (number : Nat) → List (List Char) → Except DocumentFault (List Json)
  | _, [] => .ok []
  | number, line :: rest =>
    if isBlank line then readLines (number + 1) rest
    else
      match Json.read (String.ofList line) with
      | .error fault => .error (.line number fault)
      | .ok v => (readLines (number + 1) rest).map (v :: ·)

def read (text : String) (byLine : Bool) : Except DocumentFault (List Json) :=
  if byLine then readLines 1 (lines text.toList)
  else
    match Json.read text with
    | .error fault => .error (.document fault)
    | .ok v => .ok [v]

end Documents

end Switchyard
