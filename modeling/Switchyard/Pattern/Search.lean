import Switchyard.Pattern.Node

/-! Search for a pattern. Sets of places in a text are numbers in binary, with a
digit for each place, and a pattern turns the set of places where it may start
into the set of those where it may end. -/

namespace Switchyard.Pattern

/-- A set of places: bit `i` stands for the place in front of character `i`. -/
abbrev Places := Nat

namespace Places

def ofTest (n : Nat) (test : Nat → Bool) : Places :=
  (List.range (n + 1)).foldl (fun ps i => if test i then ps ||| 1 <<< i else ps) 0

def all (n : Nat) : Places := 1 <<< (n + 1) - 1

def without (ps qs : Places) : Places := ps ^^^ (ps &&& qs)

/-- Adds to places all that at most `count` steps lead to. Only what a step adds
is gone on from, so the search ends when a step adds nothing. -/
def upTo (step : Places → Places) : (count : Nat) → (reached front : Places) → Places
  | 0, reached, front => reached ||| front
  | count + 1, reached, front =>
    let seen := reached ||| front
    let next := without (step front) seen
    if next = 0 then seen else upTo step count seen next

def iterate (step : Places → Places) : (count : Nat) → Places → Places
  | 0, ps => ps
  | count + 1, ps =>
    let next := step ps
    if next = ps then ps else iterate step count next

end Places

namespace Node

mutual

/-- The places to which a pattern leads from given ones. Its sets are those of
the places in front of a fitting character. In a text of `n` characters as many
steps lead everywhere. -/
def step (n : Nat) : Node Places Places → Places → Places
  | empty, ps => ps
  | char set, ps => (ps &&& set) <<< 1
  | place p, ps => ps &&& p
  | concat parts, ps => stepAll n parts ps
  | alternation branches, ps => stepAny n branches ps
  | repetition min max body, ps =>
    let start := Places.iterate (body.step n) min ps
    Places.upTo (body.step n) (match max with
      | none => n + 1
      | some max => max - min) 0 start
  | capture body, ps => body.step n ps
termination_by structural t => t

def stepAll (n : Nat) : List (Node Places Places) → Places → Places
  | [], ps => ps
  | t :: ts, ps => stepAll n ts (t.step n ps)
termination_by structural ts => ts

def stepAny (n : Nat) : List (Node Places Places) → Places → Places
  | [], _ => 0
  | t :: ts, ps => t.step n ps ||| stepAny n ts ps
termination_by structural ts => ts

end

end Node

structure Sides where
  before : Option Char
  after : Option Char

namespace Sides

def isWord (words : CharSet) (c : Option Char) : Bool := c.any words.contains

def holds (s : Sides) (words : CharSet) (p : Place) : Bool :=
  let before := isWord words s.before
  let after := isWord words s.after
  match p with
  | .textStart => s.before.isNone
  | .textEnd => s.after.isNone
  | .lineStart => s.before.all (· == '\n')
  | .lineEnd => s.after.all (· == '\n')
  | .lineStartCrlf =>
    s.before.all fun c => c == '\n' || (c == '\r' && s.after != some '\n')
  | .lineEndCrlf =>
    s.after.all fun c => c == '\r' || (c == '\n' && s.before != some '\r')
  | .wordBoundary _ => before != after
  | .notWordBoundary _ => before == after
  | .wordStart _ => !before && after
  | .wordEnd _ => before && !after
  | .wordStartHalf _ => !before
  | .wordEndHalf _ => !after

end Sides

def asciiWords : CharSet := ({ unicode := false } : Options).shorthandSet .word

def Place.words : Place → CharSet
  | .wordBoundary true | .notWordBoundary true | .wordStart true | .wordEnd true
  | .wordStartHalf true | .wordEndHalf true => Unicode.words
  | _ => asciiWords

namespace Node

def within (text : Array Char) (node : Node CharSet Place) : Node Places Places :=
  node.map
    (fun set => Places.ofTest text.size fun i => text[i]?.any set.contains)
    (fun p =>
      let words := p.words
      Places.ofTest text.size fun i =>
        Sides.holds ⟨if i = 0 then none else text[i - 1]?, text[i]?⟩ words p)

def occursIn (node : Node CharSet Place) (text : List Char) : Bool :=
  let text := text.toArray
  (node.within text).step text.size (Places.all text.size) != 0

end Node

end Switchyard.Pattern
