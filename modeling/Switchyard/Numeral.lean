import Switchyard.Binary64.Rounding
import Switchyard.Digits
import Switchyard.Text.Blank

/-! Numerals: the spellings of numbers that the ordering operators accept in
strings, and the doubles they stand for. -/

namespace Switchyard.Numeral

def digit? (radix : Nat) (c : Char) : Option Nat :=
  let n :=
    if '0' ≤ c ∧ c ≤ '9' then some (c.toNat - '0'.toNat)
    else if 'a' ≤ c ∧ c ≤ 'f' then some (c.toNat - 'a'.toNat + 10)
    else if 'A' ≤ c ∧ c ≤ 'F' then some (c.toNat - 'A'.toNat + 10)
    else none
  n.filter (· < radix)

/-- Digits of a radix, read from the left and rounded after each step. -/
def foldRadix (radix : Nat) (start : Binary64) (cs : List Char) : Binary64 :=
  match cs with
  | [] => start
  | c :: rest =>
    match digit? radix c with
    | some d => foldRadix radix ((start.mul (.ofNat radix)).add (.ofNat d)) rest
    | none => .nan

def ofRadix (radix : Nat) (cs : List Char) : Binary64 :=
  if cs.isEmpty then .nan else foldRadix radix .zero cs

def splitSign : List Char → Bool × List Char
  | '-' :: cs => (true, cs)
  | '+' :: cs => (false, cs)
  | cs => (false, cs)

def exponent? : List Char → Option Int
  | [] => some 0
  | c :: cs =>
    if c = 'e' ∨ c = 'E' then
      let (negative, ds) := splitSign cs
      if ds.isEmpty || !ds.all Digits.isDigit then none
      else some (if negative then -(Digits.value ds : Int) else Digits.value ds)
    else none

def splitFraction : List Char → List Char × List Char
  | '.' :: cs => (cs.takeWhile Digits.isDigit, cs.dropWhile Digits.isDigit)
  | cs => ([], cs)

def decimal? (cs : List Char) : Option Binary64 :=
  let (negative, cs) := splitSign cs
  let whole := cs.takeWhile Digits.isDigit
  let (fraction, tail) := splitFraction (cs.dropWhile Digits.isDigit)
  if whole.isEmpty && fraction.isEmpty then none
  else (exponent? tail).map fun e =>
    .ofDecimal negative (Digits.value (whole ++ fraction)) (e - fraction.length)

def word? (cs : List Char) : Option Binary64 :=
  let small := cs.map Char.toLower
  if small = "inf".toList ∨ small = "infinity".toList then some .infinity
  else if small = "nan".toList then some .nan
  else none

def double? (cs : List Char) : Option Binary64 :=
  (decimal? cs).or <|
    let (negative, cs) := splitSign cs
    (word? cs).map fun x => if negative then x.neg else x

/-- The characters of decimal literals. No word of `word?` is made of these alone. -/
def inLiteral (c : Char) : Bool := Digits.isDigit c || ['+', '-', '.', 'e', 'E'].contains c

def ofTrimmed (cs : List Char) : Binary64 :=
  match cs with
  | [] => .zero
  | '0' :: 'x' :: ds | '0' :: 'X' :: ds => ofRadix 16 ds
  | '0' :: 'o' :: ds | '0' :: 'O' :: ds => ofRadix 8 ds
  | '0' :: 'b' :: ds | '0' :: 'B' :: ds => ofRadix 2 ds
  | cs =>
    if cs = "Infinity".toList ∨ cs = "+Infinity".toList then .infinity
    else if cs = "-Infinity".toList then .neg .infinity
    else if cs.all inLiteral then (double? cs).getD .nan
    else .nan

def isPadding (c : Char) : Bool := Text.isBlank c || c == '\uFEFF'

def ofString (s : String) : Binary64 := ofTrimmed (Text.trimWhere isPadding s.toList)

end Switchyard.Numeral
