import Switchyard.Digits
import Switchyard.Json.Basic

/-! Field paths such as `order.items[0].sku`: reading, display, and the value
that a path addresses. -/

namespace Switchyard

inductive Segment where
  | key (name : String)
  | indexed (name : String) (index : UInt64)
deriving DecidableEq, Repr

structure Path where
  segments : List Segment
deriving DecidableEq, Repr

namespace Segment

def isWordChar (c : Char) : Bool := c.isAlphanum || c == '_'

def position? (ds : List Char) : Option UInt64 :=
  if !ds.isEmpty && ds.all Digits.isDigit && decide (Digits.value ds < 0x10000000000000000) then
    some (.ofNat (Digits.value ds))
  else none

def splitIndex? (cs : List Char) : Option (String × UInt64) :=
  let word := cs.takeWhile (· != '[')
  match cs.dropWhile (· != '['), cs.getLast? with
  | '[' :: inner, some ']' =>
    if !word.isEmpty && word.all isWordChar then
      (position? inner.dropLast).map (String.ofList word, ·)
    else none
  | _, _ => none

/-- Every text is a segment; one that is not `word[digits]` is a plain key. -/
def parse (cs : List Char) : Segment :=
  match splitIndex? cs with
  | some (name, index) => indexed name index
  | none => key (String.ofList cs)

def display : Segment → List Char
  | key name => name.toList
  | indexed name index => name.toList ++ '[' :: (Digits.ofNat index.toNat ++ [']'])

def member (name : String) : Json → Option Json
  | .obj members => Json.lookup name members
  | .arr items => (position? name.toList).bind fun i => items[i.toNat]?
  | _ => none

/-- One step of a path. The list behind an indexed key is entered, and any
other value behind it stands for itself. -/
def step : Segment → Json → Option Json
  | key name, v => member name v
  | indexed name index, .obj members =>
    match Json.lookup name members with
    | some (.arr items) => items[index.toNat]?
    | other => other
  | indexed .., _ => none

end Segment

namespace Path

def splitDots (cs : List Char) : List (List Char) := cs.splitOn '.'

def parse (text : String) : Path :=
  if text = "" then ⟨[]⟩ else ⟨(splitDots text.toList).map Segment.parse⟩

def isRoot (p : Path) : Bool := p.segments.isEmpty

def display (p : Path) : String :=
  String.ofList ((p.segments.map Segment.display).intersperse ['.']).flatten

def follow : List Segment → Json → Option Json
  | [], v => some v
  | s :: rest, v => (s.step v).bind (follow rest)

def resolve (p : Path) (v : Json) : Option Json := follow p.segments v

theorem follow_append (xs ys : List Segment) (v : Json) :
    follow (xs ++ ys) v = (follow xs v).bind (follow ys) := by
  induction xs generalizing v with
  | nil => rfl
  | cons s rest ih =>
    simp only [List.cons_append, follow]
    cases s.step v with
    | none => rfl
    | some w => simp [ih]

end Path

def Json.resolve (v : Json) (path : String) : Option Json := (Path.parse path).resolve v

end Switchyard
