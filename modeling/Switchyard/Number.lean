import Switchyard.Binary64.Rounding

/-! Numbers of a document. An integer literal of 64 bits stays exact, and every
other literal is a finite double. -/

namespace Switchyard

/-- The integers kept exactly: from the least signed to the largest unsigned
number of 64 bits. -/
abbrev IsWord (i : Int) : Prop := -0x8000000000000000 ≤ i ∧ i < 0x10000000000000000

inductive Number where
  | integer (i : Int) (word : IsWord i)
  | real (x : Binary64) (finite : x.isFinite = true)
deriving DecidableEq, Repr

namespace Number

def toBinary64 : Number → Binary64
  | integer i _ => .ofInt i
  | real x _ => x

def ofInt? (i : Int) : Option Number :=
  if h : IsWord i then some (.integer i h) else none

def ofBinary64? (x : Binary64) : Option Number :=
  if h : x.isFinite = true then some (.real x h) else none

def ofUInt64 (n : UInt64) : Number :=
  .integer n.toNat ⟨by omega, by have := n.toNat_lt; omega⟩

def ofInt64 (n : Int64) : Number :=
  .integer n.toInt ⟨Int64.le_toInt n, by have := Int64.toInt_lt n; omega⟩

def toInt64? : Number → Option Int64
  | integer i _ => if i < 0x8000000000000000 then some (.ofInt i) else none
  | real .. => none

def toUInt64? : Number → Option UInt64
  | integer i _ => if 0 ≤ i then some (.ofNat i.toNat) else none
  | real .. => none

/-- Two numbers compare as signed words if both are such words, else as unsigned words,
and whatever is left is compared as doubles. -/
def equal (a b : Number) : Bool :=
  match a.toInt64?, b.toInt64? with
  | some i, some j => i == j
  | _, _ =>
    match a.toUInt64?, b.toUInt64? with
    | some m, some n => m == n
    | _, _ => a.toBinary64.equal b.toBinary64

theorem equal_comm (a b : Number) : a.equal b = b.equal a := by
  unfold equal
  cases a.toInt64? <;> cases b.toInt64? <;> cases a.toUInt64? <;> cases b.toUInt64? <;>
    simp [Bool.beq_comm, Binary64.equal_comm]

end Number

end Switchyard
