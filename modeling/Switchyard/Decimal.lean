import Switchyard.Digits

/-! Decimal numbers: digits scaled by a power of ten. -/

namespace Switchyard

structure Decimal where
  digits : Nat
  exponent : Int
deriving DecidableEq, Repr, Inhabited

namespace Decimal

def dropZeros : (fuel : Nat) → Decimal → Decimal
  | 0, d => d
  | fuel + 1, d =>
    if d.digits ≠ 0 ∧ d.digits % 10 = 0 then dropZeros fuel ⟨d.digits / 10, d.exponent + 1⟩ else d

def order (d : Decimal) : Int := d.exponent + ((Digits.count d.digits - 1 : Nat) : Int)

/-- How decimals are written out: positionally when the order of the first
digit lies between two bounds, and with an exponent otherwise. -/
structure Layout where
  lowest : Int
  highest : Int

def positional (d : Decimal) : List Char :=
  let ds := Digits.ofNat d.digits
  if 0 ≤ d.exponent then ds ++ List.replicate d.exponent.toNat '0' ++ ['.', '0']
  else
    let places := (-d.exponent).toNat
    if places < ds.length then
      ds.take (ds.length - places) ++ '.' :: ds.drop (ds.length - places)
    else '0' :: '.' :: (List.replicate (places - ds.length) '0' ++ ds)

def scientific (d : Decimal) : List Char :=
  let sign := if d.order < 0 then '-' else '+'
  let mantissa := match Digits.ofNat d.digits with
    | [] => []
    | [c] => [c]
    | c :: rest => c :: '.' :: rest
  mantissa ++ 'e' :: sign :: Digits.ofNat d.order.natAbs

def write (layout : Layout) (d : Decimal) : List Char :=
  if layout.lowest ≤ d.order ∧ d.order ≤ layout.highest then d.positional else d.scientific

end Decimal

end Switchyard
