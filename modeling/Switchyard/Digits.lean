/-! Decimal digits: reading, value and spelling. -/

namespace Switchyard.Digits

def isDigit (c : Char) : Bool := '0' ≤ c && c ≤ '9'

def valueFrom (start : Nat) (cs : List Char) : Nat :=
  cs.foldl (fun n c => 10 * n + (c.toNat - '0'.toNat)) start

def value (cs : List Char) : Nat := valueFrom 0 cs

def ofNat (n : Nat) : List Char := Nat.toDigits 10 n

def count (n : Nat) : Nat := (ofNat n).length

theorem valueFrom_append (start : Nat) (cs ds : List Char) :
    valueFrom start (cs ++ ds) = valueFrom (valueFrom start cs) ds := by
  simp [valueFrom]

end Switchyard.Digits
