import Switchyard.Pattern.Tree
import Switchyard.Text.Blank

/-! The place in a pattern where reading goes on. In verbose mode blanks and
comments between the parts of a pattern do not count. -/

namespace Switchyard.Pattern

structure Cursor where
  rest : List Char
  verbose : Bool
  names : List (List Char)

namespace Cursor

def dropComments : (inComment : Bool) → List Char → List Char
  | _, [] => []
  | true, c :: cs => dropComments (c != '\n') cs
  | false, c :: cs =>
    if Text.isBlank c then dropComments false cs
    else if c = '#' then dropComments true cs
    else c :: cs

def skip (c : Cursor) : Cursor :=
  if c.verbose then { c with rest := dropComments false c.rest } else c

def moveTo (c : Cursor) (rest : List Char) : Cursor := { c with rest }

def past (c : Cursor) (rest : List Char) : Cursor := (c.moveTo rest).skip

def past? (c : Cursor) (rest : List Char) : Option Cursor :=
  let next := c.past rest
  if next.rest.isEmpty then none else some next

/-- The character behind the next one, blanks left out in verbose mode; at most
one `#` counts as a blank. -/
def peekPast (c : Cursor) (rest : List Char) : Option Char :=
  if c.verbose then
    match rest.dropWhile Text.isBlank with
    | '#' :: tail =>
      match tail.dropWhile Text.isBlank with
      | [] => rest.head?
      | next :: _ => some next
    | [] => rest.head?
    | next :: _ => some next
  else rest.head?

def takeWith (accept : Char → Bool) : (fuel : Nat) → (acc : List Char) → Cursor →
    List Char × Cursor
  | 0, acc, c => (acc.reverse, c)
  | fuel + 1, acc, c =>
    match c.rest with
    | [] => (acc.reverse, c)
    | x :: rest =>
      if accept x then takeWith accept fuel (x :: acc) (c.past rest) else (acc.reverse, c)

def take (accept : Char → Bool) (c : Cursor) : List Char × Cursor :=
  takeWith accept c.rest.length [] c

end Cursor

end Switchyard.Pattern
