import Switchyard.Numeral

/-! Sets of characters as lists of disjoint ranges of code points, in increasing
order. Code points of surrogates are in no set. -/

namespace Switchyard

structure CharSet where
  ranges : List (Nat × Nat)
deriving DecidableEq, Repr, Inhabited

namespace CharSet

def empty : CharSet := ⟨[]⟩

def full : CharSet := ⟨[(0, 0xD7FF), (0xE000, 0x10FFFF)]⟩

def ascii : CharSet := ⟨[(0, 0x7F)]⟩

def hasCode (s : CharSet) (n : Nat) : Bool := s.ranges.any fun (a, b) => a ≤ n && n ≤ b

def contains (s : CharSet) (c : Char) : Bool := s.hasCode c.toNat

/-- Joins a range with those after it that touch or overlap; they are given by
increasing first code points. -/
def joinFrom (a b : Nat) : List (Nat × Nat) → List (Nat × Nat)
  | [] => [(a, b)]
  | (c, d) :: rest =>
    if c ≤ b + 1 then joinFrom a (max b d) rest else (a, b) :: joinFrom c d rest

def join : List (Nat × Nat) → List (Nat × Nat)
  | [] => []
  | (a, b) :: rest => joinFrom a b rest

def intersect (s t : CharSet) : CharSet :=
  ⟨s.ranges.flatMap fun (a, b) => t.ranges.filterMap fun (c, d) =>
    if max a c ≤ min b d then some (max a c, min b d) else none⟩

def gaps : (start : Nat) → List (Nat × Nat) → List (Nat × Nat)
  | start, [] => if start ≤ 0x10FFFF then [(start, 0x10FFFF)] else []
  | start, (a, b) :: rest =>
    if start < a then (start, a - 1) :: gaps (b + 1) rest else gaps (b + 1) rest

def complement (s : CharSet) : CharSet := intersect ⟨gaps 0 s.ranges⟩ full

def ofRanges (ranges : List (Nat × Nat)) : CharSet :=
  intersect ⟨join (ranges.mergeSort fun r s => decide (r.1 ≤ s.1))⟩ full

def union (s t : CharSet) : CharSet := ofRanges (s.ranges ++ t.ranges)

def unionAll (sets : List CharSet) : CharSet := ofRanges (sets.flatMap CharSet.ranges)

def difference (s t : CharSet) : CharSet := s.intersect t.complement

def symmetricDifference (s t : CharSet) : CharSet := (s.difference t).union (t.difference s)

def singleton (n : Nat) : CharSet := ofRanges [(n, n)]

def isAscii (s : CharSet) : Bool := s.ranges.all fun (_, b) => b < 0x80

def single? (s : CharSet) : Option Nat :=
  match s.ranges with
  | [(a, b)] => if a = b then some a else none
  | _ => none

end CharSet

end Switchyard
