import Switchyard.Json.Reader.Basic

/-! Number literals. Digits are gathered into a significand of 64 bits, and the
value of a real literal is that significand, rounded, times or divided by one
rounded power of ten. -/

namespace Switchyard.Json.Reader

/-- Appends digits to a significand until one would make it overflow. -/
def gather (significand : Nat) : List Char → Nat × List Char
  | [] => (significand, [])
  | c :: cs =>
    let next := 10 * significand + (c.toNat - '0'.toNat)
    if Digits.isDigit c && decide (next < 0x10000000000000000) then gather next cs
    else (significand, c :: cs)

def startsWithDigit : List Char → Bool
  | [] => false
  | c :: _ => Digits.isDigit c

def skipDigits (cs : List Char) : List Char := cs.dropWhile Digits.isDigit

/-- The value of a significand and an exponent of ten. Beyond the powers of ten
that are doubles, a large exponent overflows and a small one divides twice. -/
def scale (significand : Nat) (exponent : Int) : Binary64 :=
  let x := Binary64.ofNat significand
  if significand = 0 then .zero
  else if 308 < exponent then .infinity
  else if 0 ≤ exponent then x.mul (.powerOfTen exponent.toNat)
  else if -308 ≤ exponent then x.div (.powerOfTen (-exponent).toNat)
  else if -616 ≤ exponent then
    (x.div (.powerOfTen 308)).div (.powerOfTen (-(exponent + 308)).toNat)
  else .zero

def finishReal (negative : Bool) (significand : Nat) (exponent : Int) (rest : List Char) :
    Result (Number × List Char) :=
  let x := scale significand exponent
  match Number.ofBinary64? (if negative then x.neg else x) with
  | some n => .ok (n, rest)
  | none => fail rest .numberOutOfRange

def finishInteger (negative : Bool) (significand : Nat) (rest : List Char) :
    Result (Number × List Char) :=
  let exact :=
    if negative then 0 < significand ∧ significand ≤ 0x8000000000000000
    else significand < 0x10000000000000000
  match Number.ofInt? (if negative then -(significand : Int) else significand) with
  | some n => if exact then .ok (n, rest) else finishReal negative significand 0 rest
  | none => finishReal negative significand 0 rest

def exponentLimit : Nat := 0x80000000

/-- The digits of an exponent. One that passes the limit is an overflow where
the digit that does so was read, unless the value is zero all the same. -/
def exponentDigits (negative : Bool) (significand : Nat) (start : Int) (negativeExponent : Bool)
    (exponent : Nat) : List Char → Result (Number × List Char)
  | [] => finish exponent []
  | c :: cs =>
    if Digits.isDigit c then
      let next := 10 * exponent + (c.toNat - '0'.toNat)
      if next < exponentLimit then
        exponentDigits negative significand start negativeExponent next cs
      else if significand ≠ 0 && !negativeExponent then fail cs .numberOutOfRange
      else finishReal negative 0 0 (skipDigits cs)
    else finish exponent (c :: cs)
where
  finish (exponent : Nat) (rest : List Char) : Result (Number × List Char) :=
    finishReal negative significand
      (if negativeExponent then start - exponent else start + exponent) rest

def exponent (negative : Bool) (significand : Nat) (start : Int) (cs : List Char) :
    Result (Number × List Char) :=
  let (negativeExponent, cs) := match cs with
    | '-' :: cs => (true, cs)
    | '+' :: cs => (false, cs)
    | cs => (false, cs)
  match cs with
  | [] => fail [] .endInValue
  | c :: rest =>
    if Digits.isDigit c then exponentDigits negative significand start negativeExponent 0 (c :: rest)
    else failAt (c :: rest) .invalidNumber

def afterDigits (negative : Bool) (significand : Nat) (start : Int) :
    List Char → Result (Number × List Char)
  | 'e' :: cs | 'E' :: cs => exponent negative significand start cs
  | cs => finishReal negative significand start cs

def fraction (negative : Bool) (significand : Nat) (start : Int) (cs : List Char) :
    Result (Number × List Char) :=
  let (longer, rest) := gather significand cs
  let places : Int := cs.length - rest.length
  if startsWithDigit rest then afterDigits negative longer (start - places) (skipDigits rest)
  else if places = 0 then
    if rest.isEmpty then fail [] .endInValue else failAt rest .invalidNumber
  else afterDigits negative longer (start - places) rest

def afterInteger (negative : Bool) (significand : Nat) (cs : List Char) :
    Result (Number × List Char) :=
  if startsWithDigit cs then
    let rest := skipDigits cs
    let places : Int := cs.length - rest.length
    match rest with
    | '.' :: rest => fraction negative significand places rest
    | rest => afterDigits negative significand places rest
  else match cs with
    | '.' :: rest => fraction negative significand 0 rest
    | 'e' :: rest | 'E' :: rest => exponent negative significand 0 rest
    | rest => finishInteger negative significand rest

def number (negative : Bool) : List Char → Result (Number × List Char)
  | [] => fail [] .endInValue
  | '0' :: cs =>
    if startsWithDigit cs then failAt cs .invalidNumber else afterInteger negative 0 cs
  | c :: cs =>
    if Digits.isDigit c then
      let (significand, rest) := gather 0 (c :: cs)
      afterInteger negative significand rest
    else failAt (c :: cs) .invalidNumber

end Switchyard.Json.Reader
