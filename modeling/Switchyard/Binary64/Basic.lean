/-! Double-precision numbers. The non-negative doubles, counted upwards from
zero, have ranks 0, 1, 2, ... up to the rank of infinity, so order is order of
ranks and the value of a rank is an exact multiple of the smallest positive
double. -/

namespace Switchyard

namespace Binary64

abbrev topRank : Nat := 0x7FF0000000000000

end Binary64

/-- A double is not a number, or a sign and the rank of its magnitude. -/
inductive Binary64 where
  | nan
  | ranked (negative : Bool) (rank : Fin (Binary64.topRank + 1))
deriving DecidableEq, Repr, Inhabited

namespace Binary64

abbrev blockSize : Nat := 0x10000000000000

def unitsPerOne : Nat := 1 <<< 1074

/-- The value of a rank in units: consecutive ranks differ by one unit up to
rank `2 ^ 53`, and by twice as much in each following block of `2 ^ 52`. -/
def unitsOfRank (rank : Nat) : Nat :=
  if rank < 2 * blockSize then rank
  else (blockSize + rank % blockSize) <<< (rank / blockSize - 1)

def signedZero (negative : Bool) : Binary64 := .ranked negative 0

def zero : Binary64 := signedZero false

def infinity : Binary64 := .ranked false (Fin.last topRank)

def isNaN : Binary64 → Bool
  | .nan => true
  | .ranked .. => false

def isFinite : Binary64 → Bool
  | .nan => false
  | .ranked _ rank => rank.val < topRank

def isZero : Binary64 → Bool
  | .nan => false
  | .ranked _ rank => rank.val == 0

def neg : Binary64 → Binary64
  | .nan => .nan
  | .ranked negative rank => .ranked (!negative) rank

/-- The signed rank. Both zeros have the key 0, and only `nan` has none. -/
def key? : Binary64 → Option Int
  | .nan => none
  | .ranked false rank => some rank.val
  | .ranked true rank => some (-rank.val)

def equal (x y : Binary64) : Bool :=
  match x.key?, y.key? with
  | some a, some b => a == b
  | _, _ => false

def less (x y : Binary64) : Bool :=
  match x.key?, y.key? with
  | some a, some b => a < b
  | _, _ => false

def lessOrEqual (x y : Binary64) : Bool :=
  match x.key?, y.key? with
  | some a, some b => a ≤ b
  | _, _ => false

def bits? : Binary64 → Option Nat
  | .nan => none
  | .ranked negative rank => some ((if negative then 1 <<< 63 else 0) + rank.val)

def hex (x : Binary64) : String :=
  match x.bits? with
  | none => "NaN"
  | some bits =>
    String.ofList ((List.range 16).map fun i => Nat.digitChar (bits >>> (60 - 4 * i) % 16))

theorem key?_eq_none_iff {x : Binary64} : x.key? = none ↔ x = .nan := by
  cases x with
  | nan => simp [key?]
  | ranked negative rank => cases negative <;> simp [key?]

theorem equal_comm (x y : Binary64) : x.equal y = y.equal x := by
  unfold equal
  cases x.key? <;> cases y.key? <;> simp [Bool.beq_comm]

end Binary64

end Switchyard
