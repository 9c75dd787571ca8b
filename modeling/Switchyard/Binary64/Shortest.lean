import Switchyard.Binary64.Rounding
import Switchyard.Decimal

/-! The shortest decimal of a double: the fewest digits that round back to it,
and among those the nearest to its value. -/

namespace Switchyard.Binary64

def leadingExponent (num den : Nat) : Int :=
  if den ≤ num then ((Digits.count (num / den) - 1 : Nat) : Int)
  else -(Digits.count ((den - 1) / num) : Int)

/-- The two multiples of `10 ^ exponent` around `num / den`, the nearer one
first; of two equally near ones the even one comes first. -/
def neighbours (num den : Nat) (exponent : Int) : List Decimal :=
  let n := num * Nat.pow 10 (-exponent).toNat
  let d := den * Nat.pow 10 exponent.toNat
  let low : Decimal := ⟨n / d, exponent⟩
  let high : Decimal := ⟨n / d + 1, exponent⟩
  if divideEven n d = n / d then [low, high] else [high, low]

/-- The shortest decimal that rounds to a rank. Seventeen digits always reach
it; the exact value closes the search, so that the result reads back by form. -/
def shortestOfRank (rank : Fin (topRank + 1)) : Decimal :=
  let units := unitsOfRank rank
  let lead := leadingExponent units unitsPerOne
  let candidates := (List.range 17).flatMap fun (places : Nat) =>
    neighbours units unitsPerOne (lead - places)
  match candidates.find? fun d => ofDecimal false d.digits d.exponent = .ranked false rank with
  | some d => d.dropZeros 17
  | none => ⟨units * Nat.pow 5 1074, -1074⟩

def write (layout : Decimal.Layout) : Binary64 → List Char
  | .nan => "NaN".toList
  | .ranked negative rank =>
    let magnitude :=
      if rank.val = 0 then "0.0".toList
      else if rank.val = topRank then "inf".toList
      else (shortestOfRank rank).write layout
    if negative then '-' :: magnitude else magnitude

end Switchyard.Binary64
