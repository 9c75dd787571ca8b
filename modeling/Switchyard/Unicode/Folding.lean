import Switchyard.Unicode.FoldingTable

/-! Simple case folding: characters are alike if they fold to the same one. -/

namespace Switchyard.Unicode.Folding

def pairs : List (Nat × Nat) :=
  (entries table).flatMap fun cs =>
    let target := hex ((cs.dropWhile (· != '>')).drop 1)
    let sources := (entryRanges (cs.takeWhile (· != '>'))).flatMap fun (a, b) =>
      (List.range (b - a + 1)).map (a + ·)
    sources.map fun n => (n, n - sources.headD 0 + target)

def close (s : CharSet) : CharSet :=
  let reached := pairs.filter fun (n, target) => s.hasCode n || s.hasCode target
  let targets := CharSet.ofRanges (reached.map fun (_, target) => (target, target))
  let sources := pairs.filter fun (_, target) => targets.hasCode target
  s.union (targets.union (.ofRanges (sources.map fun (n, _) => (n, n))))

def closeAscii (s : CharSet) : CharSet :=
  let shift (first last : Nat) (move : Nat → Nat) : List (Nat × Nat) :=
    (s.intersect ⟨[(first, last)]⟩).ranges.map fun (a, b) => (move a, move b)
  s.union (.ofRanges (shift 0x41 0x5A (· + 32) ++ shift 0x61 0x7A (· - 32)))

end Switchyard.Unicode.Folding
