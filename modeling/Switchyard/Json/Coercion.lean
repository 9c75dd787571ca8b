import Switchyard.Json.Basic
import Switchyard.Numeral

/-! Coercion of values to doubles for the ordering operators. A value without a
numeric reading becomes `nan`, which no comparison accepts. -/

namespace Switchyard.Json

mutual

def toBinary64 : Json → Binary64
  | .null => .zero
  | .bool b => if b then .ofNat 1 else .zero
  | .num n => n.toBinary64
  | .str s => Numeral.ofString s
  | .arr items => itemsToBinary64 items
  | .obj _ => .nan
termination_by structural v => v

/-- An array of one element counts as the text of that element, so a boolean
in it has no numeric reading. -/
def itemsToBinary64 : List Json → Binary64
  | [] => .zero
  | .bool _ :: [] => .nan
  | item :: [] => toBinary64 item
  | _ :: _ :: _ => .nan
termination_by structural items => items

end

def toBinary64? : Option Json → Binary64
  | none => .nan
  | some v => toBinary64 v

end Switchyard.Json
