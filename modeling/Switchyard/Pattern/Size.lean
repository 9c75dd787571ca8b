import Switchyard.Pattern.Node

/-! The size of patterns. A pattern is refused if its automaton over bytes, with
counted repetitions written out, would take more than a fixed amount of memory. -/

namespace Switchyard.Pattern

def sizeLimit : Nat := 10 * 1024 * 1024

def stateSize : Nat := 32

def transitionSize : Nat := 8

def branchSize : Nat := 4

abbrev ByteSequence := List (Nat × Nat)

/-- The sequences that cover code points up to `last` from `first` on, written
with `more` bytes behind a leading one that starts at `lead`. -/
def byteSequences : (more : Nat) → (lead first last : Nat) → List ByteSequence
  | 0, lead, first, last => [[(lead + first, lead + last)]]
  | more + 1, lead, first, last =>
    let block := Nat.pow 64 (more + 1)
    let low := first / block
    let high := last / block
    let within (n a b : Nat) : List ByteSequence :=
      (byteSequences more 0x80 a b).map ((lead + n, lead + n) :: ·)
    if low = high then within low (first % block) (last % block)
    else
      let front := if first % block = 0 then [] else within low (first % block) (block - 1)
      let back := if last % block = block - 1 then [] else within high 0 (last % block)
      let a := if first % block = 0 then low else low + 1
      let b := if last % block = block - 1 then high else high - 1
      let middle : List ByteSequence :=
        if a ≤ b then [(lead + a, lead + b) :: List.replicate (more + 1) (0x80, 0xBF)] else []
      front ++ middle ++ back

def rangeSequences (first last : Nat) : List ByteSequence :=
  let part (more lead low high : Nat) : List ByteSequence :=
    if max first low ≤ min last high then byteSequences more lead (max first low) (min last high)
    else []
  part 0 0 0 0x7F ++ part 1 0xC0 0x80 0x7FF ++ part 2 0xE0 0x800 0xFFFF ++
    part 3 0xF0 0x10000 0x10FFFF

def shared : ByteSequence → ByteSequence → Nat
  | a :: as, b :: bs => if a = b then shared as bs + 1 else 0
  | _, _ => 0

def treeStates : (before : ByteSequence) → List ByteSequence → Nat
  | _, [] => 0
  | before, s :: rest => s.length - shared before s + treeStates s rest

def setSize (s : CharSet) : Nat :=
  match s.single? with
  | some n => (Char.ofNat n).utf8Size * stateSize
  | none =>
    if s.isAscii then 2 * stateSize + transitionSize * s.ranges.length
    else
      let sequences := s.ranges.flatMap fun (a, b) => rangeSequences a b
      2 * stateSize + branchSize * sequences.length + stateSize * treeStates [] sequences

namespace Node

def forkSize : Nat := stateSize + 2 * branchSize

mutual

def size {π : Type} : Node Nat π → Nat
  | empty => stateSize
  | char set => set
  | place _ => stateSize
  | concat parts => sizes parts
  | alternation branches =>
    2 * stateSize + branchSize * branches.length + sizes branches
  | repetition min max body =>
    match max with
    | none => (if min = 0 then 1 else min) * body.size + forkSize
    | some max => min * body.size + (max - min) * (body.size + forkSize) + stateSize
  | capture body => body.size + 2 * stateSize
termination_by structural n => n

def sizes {π : Type} : List (Node Nat π) → Nat
  | [] => 0
  | n :: ns => n.size + sizes ns
termination_by structural ns => ns

end

end Node

end Switchyard.Pattern
