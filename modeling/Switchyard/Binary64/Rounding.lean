import Switchyard.Binary64.Basic

/-! Correct rounding. An exact non-negative quotient goes to the nearest rank,
a tie to the even one, and every operation is its exact result rounded once. -/

namespace Switchyard.Binary64

def divideEven (num den : Nat) : Nat :=
  let quotient := num / den
  let twice := 2 * (num % den)
  if twice < den ∨ (twice = den ∧ quotient % 2 = 0) then quotient else quotient + 1

/-- The rank nearest to `num / den` units. Rounding happens in the block of
ranks that holds the quotient, so a carry out of it is the next rank. -/
def nearestRank (num den : Nat) : Fin (topRank + 1) :=
  let block := Nat.log2 (num / den) - 52
  ⟨min (block * blockSize + divideEven num (den <<< block)) topRank,
    Nat.lt_succ_of_le (Nat.min_le_right ..)⟩

def ofRatio (negative : Bool) (num den : Nat) : Binary64 :=
  .ranked negative (nearestRank (num * unitsPerOne) den)

def ofNat (n : Nat) : Binary64 := ofRatio false n 1

def ofInt (i : Int) : Binary64 := ofRatio (i < 0) i.natAbs 1

/-- The double nearest to `digits * 10 ^ exponent`. Exponents far outside the
range of doubles are answered without building the power of ten. -/
def ofDecimal (negative : Bool) (digits : Nat) (exponent : Int) : Binary64 :=
  if digits = 0 then signedZero negative
  else if 310 < exponent then .ranked negative (Fin.last topRank)
  else if exponent < -(Nat.log2 digits + 400) then signedZero negative
  else if 0 ≤ exponent then ofRatio negative (digits * Nat.pow 10 exponent.toNat) 1
  else ofRatio negative digits (Nat.pow 10 (-exponent).toNat)

def powerOfTen (exponent : Nat) : Binary64 := ofDecimal false 1 exponent

def mul : Binary64 → Binary64 → Binary64
  | .ranked p a, .ranked q b =>
    if a.val = topRank ∨ b.val = topRank then
      if a.val = 0 ∨ b.val = 0 then .nan else .ranked (p != q) (Fin.last topRank)
    else
      .ranked (p != q) (nearestRank (unitsOfRank a * unitsOfRank b) unitsPerOne)
  | _, _ => .nan

def div : Binary64 → Binary64 → Binary64
  | .ranked p a, .ranked q b =>
    if (a.val = topRank ∧ b.val = topRank) ∨ (a.val = 0 ∧ b.val = 0) then .nan
    else if a.val = topRank ∨ b.val = 0 then .ranked (p != q) (Fin.last topRank)
    else if b.val = topRank then signedZero (p != q)
    else .ranked (p != q) (nearestRank (unitsOfRank a * unitsPerOne) (unitsOfRank b))
  | _, _ => .nan

def signedUnits (negative : Bool) (rank : Nat) : Int :=
  if negative then -(unitsOfRank rank : Int) else unitsOfRank rank

def add : Binary64 → Binary64 → Binary64
  | .ranked p a, .ranked q b =>
    if a.val = topRank ∧ b.val = topRank then
      if p = q then .ranked p a else .nan
    else if a.val = topRank then .ranked p a
    else if b.val = topRank then .ranked q b
    else
      let sum := signedUnits p a + signedUnits q b
      if sum = 0 then signedZero (p && q)
      else .ranked (sum < 0) (nearestRank sum.natAbs 1)
  | _, _ => .nan

end Switchyard.Binary64
