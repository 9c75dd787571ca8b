import Switchyard.Pattern.Escape

/-! Classes in brackets. -/

namespace Switchyard.Pattern

namespace ClassTree

def posixSet? (name : List Char) : Option CharSet :=
  match String.ofList name with
  | "alnum" => some (.ofRanges [(0x30, 0x39), (0x41, 0x5A), (0x61, 0x7A)])
  | "alpha" => some (.ofRanges [(0x41, 0x5A), (0x61, 0x7A)])
  | "ascii" => some (.ofRanges [(0, 0x7F)])
  | "blank" => some (.ofRanges [(0x09, 0x09), (0x20, 0x20)])
  | "cntrl" => some (.ofRanges [(0, 0x1F), (0x7F, 0x7F)])
  | "digit" => some (.ofRanges [(0x30, 0x39)])
  | "graph" => some (.ofRanges [(0x21, 0x7E)])
  | "lower" => some (.ofRanges [(0x61, 0x7A)])
  | "print" => some (.ofRanges [(0x20, 0x7E)])
  | "punct" => some (.ofRanges [(0x21, 0x2F), (0x3A, 0x40), (0x5B, 0x60), (0x7B, 0x7E)])
  | "space" => some (.ofRanges [(0x09, 0x0D), (0x20, 0x20)])
  | "upper" => some (.ofRanges [(0x41, 0x5A)])
  | "word" => some (.ofRanges [(0x30, 0x39), (0x41, 0x5A), (0x5F, 0x5F), (0x61, 0x7A)])
  | "xdigit" => some (.ofRanges [(0x30, 0x39), (0x41, 0x46), (0x61, 0x66)])
  | _ => none

def posix? (cs : List Char) : Option (ClassTree × List Char) :=
  match cs with
  | ':' :: cs =>
    let (negated, cs) := match cs with
      | '^' :: cs => (true, cs)
      | cs => (false, cs)
    match cs.dropWhile (· != ':') with
    | ':' :: ']' :: rest =>
      (posixSet? (cs.takeWhile (· != ':'))).map fun set => (posix negated set, rest)
    | _ => none
  | _ => none

def operand (c : Cursor) : Option (Escape × Cursor) :=
  match c.rest with
  | '\\' :: rest => Escape.parse (c.moveTo rest)
  | x :: rest => some (.literal ⟨x, false⟩, c.moveTo rest)
  | [] => none

def ofEscape? : Escape → Option ClassTree
  | .literal l => some (literal l)
  | .property negated query => some (property negated query)
  | .shorthand negated s => some (shorthand negated s)
  | .anchor _ => none

/-- A range, or an item that no range follows. A hyphen in front of the closing
bracket or of another hyphen makes no range. -/
def range? (c : Cursor) : Option (ClassTree × Cursor) := do
  let (first, c) ← operand c
  let c := c.skip
  match c.rest with
  | [] => none
  | '-' :: rest =>
    match c.peekPast rest with
    | some ']' | some '-' => pure (← ofEscape? first, c)
    | _ =>
      let (last, c) ← operand (← c.past? rest)
      match first, last with
      | .literal a, .literal b => if a.char ≤ b.char then some (range a b, c) else none
      | _, _ => none
  | _ => pure (← ofEscape? first, c)

def hyphens : (fuel : Nat) → (acc : List ClassTree) → Cursor → Option (List ClassTree × Cursor)
  | 0, acc, c => some (acc, c)
  | fuel + 1, acc, c =>
    match c.rest with
    | '-' :: rest => do hyphens fuel (literal ⟨'-', false⟩ :: acc) (← c.past? rest)
    | _ => some (acc, c)

/-- The beginning of a class, after its bracket: the negation, and characters
that stand for themselves only there. The items are in reverse. -/
def opening (c : Cursor) (rest : List Char) : Option (Bool × List ClassTree × Cursor) := do
  let c ← c.past? rest
  let (negated, c) ← match c.rest with
    | '^' :: rest => (c.past? rest).map (true, ·)
    | _ => some (false, c)
  let (items, c) ← hyphens c.rest.length [] c
  match items, c.rest with
  | [], ']' :: rest => (c.past? rest).map (negated, [literal ⟨']', false⟩], ·)
  | items, _ => some (negated, items, c)

abbrev Pending := Option (SetOperation × ClassTree)

def settle (pending : Pending) (items : List ClassTree) : ClassTree :=
  match pending with
  | none => ofItems items.reverse
  | some (op, left) => combine op left (ofItems items.reverse)

/-- The rest of a class up to its bracket, from the items read so far. Operations
bind alike, from the left. Every step reads a character. -/
def body : (fuel : Nat) → Pending → List ClassTree → Cursor → Option (ClassTree × Cursor)
  | 0, _, _, _ => none
  | fuel + 1, pending, items, c =>
    let c := c.skip
    match c.rest with
    | [] => none
    | '[' :: rest =>
      match posix? rest with
      | some (item, rest) => body fuel pending (item :: items) (c.moveTo rest)
      | none =>
        match opening c rest with
        | none => none
        | some (negated, first, inner) =>
          match body fuel none first inner with
          | none => none
          | some (nested, inner) =>
            body fuel pending (bracketed negated nested :: items) inner
    | ']' :: rest => some (settle pending items, c.moveTo rest)
    | '&' :: '&' :: rest => body fuel (some (.intersection, settle pending items)) [] (c.moveTo rest)
    | '-' :: '-' :: rest => body fuel (some (.difference, settle pending items)) [] (c.moveTo rest)
    | '~' :: '~' :: rest =>
      body fuel (some (.symmetricDifference, settle pending items)) [] (c.moveTo rest)
    | _ =>
      match range? c with
      | none => none
      | some (item, c) => body fuel pending (item :: items) c

def parse (c : Cursor) (rest : List Char) : Option (Tree × Cursor) := do
  let (negated, first, inner) ← opening c rest
  let (tree, c) ← body (inner.rest.length + 1) none first inner
  pure (.bracketed negated tree, c)

end ClassTree

end Switchyard.Pattern
