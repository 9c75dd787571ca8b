import Switchyard.Binary64.Shortest
import Switchyard.Json.Basic
import Switchyard.Text.Quoted

/-! What can be wrong with a text or with a value that is to be decoded: a
malformed text, or a mismatch between a value and what is expected there. -/

namespace Switchyard

inductive Malformation where
  | endInValue
  | endInList
  | endInObject
  | endInString
  | expectedColon
  | expectedListComma
  | expectedObjectComma
  | expectedWord
  | expectedValue
  | invalidEscape
  | invalidNumber
  | numberOutOfRange
  | controlCharacter
  | keyNotString
  | loneSurrogate
  | unfinishedSurrogate
  | trailingComma
  | trailingCharacters
  | tooDeep
deriving DecidableEq, Repr

inductive Found where
  | null
  | boolean (b : Bool)
  | number (n : Number)
  | string (s : String)
  | sequence
  | map
deriving DecidableEq, Repr

inductive Mismatch where
  | missingField (key : String)
  | duplicateField (key : String)
  | unknownVariant (name : String) (known : List String)
  | wrongType (found : Found) (expected : String)
  | wrongValue (found : Found) (expected : String)
  | wrongLength (length : Nat) (expected : String)
deriving DecidableEq, Repr

inductive Fault where
  | malformed (m : Malformation)
  | mismatched (m : Mismatch)
deriving DecidableEq, Repr

/-- Floating-point numbers are written positionally when the first digit lies
between the fifth place after the point and the sixteenth before it. -/
def Json.numberLayout : Decimal.Layout := ⟨-5, 15⟩

def Number.write : Number → List Char
  | .integer i _ => if i < 0 then '-' :: Digits.ofNat i.natAbs else Digits.ofNat i.natAbs
  | .real x _ => x.write Json.numberLayout

def Malformation.message : Malformation → String
  | endInValue => "EOF while parsing a value"
  | endInList => "EOF while parsing a list"
  | endInObject => "EOF while parsing an object"
  | endInString => "EOF while parsing a string"
  | expectedColon => "expected `:`"
  | expectedListComma => "expected `,` or `]`"
  | expectedObjectComma => "expected `,` or `\x7d`"
  | expectedWord => "expected ident"
  | expectedValue => "expected value"
  | invalidEscape => "invalid escape"
  | invalidNumber => "invalid number"
  | numberOutOfRange => "number out of range"
  | controlCharacter => "control character (\\u0000-\\u001F) found while parsing a string"
  | keyNotString => "key must be a string"
  | loneSurrogate => "lone leading surrogate in hex escape"
  | unfinishedSurrogate => "unexpected end of hex escape"
  | trailingComma => "trailing comma"
  | trailingCharacters => "trailing characters"
  | tooDeep => "recursion limit exceeded"

namespace Found

def ofJson : Json → Found
  | .null => null
  | .bool b => boolean b
  | .num n => number n
  | .str s => string s
  | .arr _ => sequence
  | .obj _ => map

def describe : Found → String
  | null => "null"
  | boolean b => if b then "boolean `true`" else "boolean `false`"
  | number (.integer i h) => "integer `" ++ String.ofList (Number.integer i h).write ++ "`"
  | number (.real x h) => "floating point `" ++ String.ofList (Number.real x h).write ++ "`"
  | string s => "string " ++ Text.quoted s
  | sequence => "sequence"
  | map => "map"

end Found

namespace Mismatch

def alternatives (names : List String) : String :=
  let tick := fun name : String => "`" ++ name ++ "`"
  match names with
  | [] => "there are no variants"
  | [a] => "expected " ++ tick a
  | [a, b] => "expected " ++ tick a ++ " or " ++ tick b
  | names => "expected one of " ++ ", ".intercalate (names.map tick)

def message : Mismatch → String
  | missingField key => "missing field `" ++ key ++ "`"
  | duplicateField key => "duplicate field `" ++ key ++ "`"
  | unknownVariant name known => "unknown variant `" ++ name ++ "`, " ++ alternatives known
  | wrongType found expected =>
    "invalid type: " ++ found.describe ++ ", expected " ++ expected
  | wrongValue found expected =>
    "invalid value: " ++ found.describe ++ ", expected " ++ expected
  | wrongLength length expected =>
    "invalid length " ++ toString length ++ ", expected " ++ expected

end Mismatch

def Fault.message : Fault → String
  | malformed m => m.message
  | mismatched m => m.message

end Switchyard
