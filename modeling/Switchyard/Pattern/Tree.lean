import Switchyard.Unicode.Query

/-! Patterns as they are written. -/

namespace Switchyard.Pattern

inductive Flag where
  | caseInsensitive
  | multiLine
  | dotAll
  | swapGreed
  | unicode
  | crlf
  | verbose
deriving DecidableEq, Repr

abbrev Settings := List (Flag × Bool)

/-- A character. One that is written with two hexadecimal digits is a byte where
patterns are about bytes. -/
structure Literal where
  char : Char
  isByte : Bool
deriving DecidableEq, Repr

inductive Shorthand where
  | digit
  | blank
  | word
deriving DecidableEq, Repr

inductive Query where
  | named (name : List Char)
  | valued (property value : List Char)
deriving DecidableEq, Repr

def Query.set? : Query → Option CharSet
  | named name => Unicode.named? name
  | valued property value => Unicode.valued? property value

inductive Anchor where
  | lineStart
  | lineEnd
  | textStart
  | textEnd
  | wordBoundary
  | notWordBoundary
  | wordStart
  | wordEnd
  | wordStartHalf
  | wordEndHalf
deriving DecidableEq, Repr

inductive SetOperation where
  | intersection
  | difference
  | symmetricDifference
deriving DecidableEq, Repr

inductive ClassTree where
  | literal (l : Literal)
  | range (first last : Literal)
  | posix (negated : Bool) (set : CharSet)
  | property (negated : Bool) (query : Query)
  | shorthand (negated : Bool) (kind : Shorthand)
  | bracketed (negated : Bool) (body : ClassTree)
  | union (items : List ClassTree)
  | combine (op : SetOperation) (left right : ClassTree)

inductive Tree where
  | empty
  | settings (s : Settings)
  | literal (l : Literal)
  | dot
  | anchor (a : Anchor)
  | property (negated : Bool) (query : Query)
  | shorthand (negated : Bool) (kind : Shorthand)
  | bracketed (negated : Bool) (body : ClassTree)
  | repetition (min : Nat) (max : Option Nat) (body : Tree)
  | group (captures : Bool) (settings : Settings) (body : Tree)
  | concat (parts : List Tree)
  | alternation (branches : List Tree)

def ClassTree.ofItems : List ClassTree → ClassTree
  | [item] => item
  | items => .union items

namespace Tree

def ofParts : List Tree → Tree
  | [] => .empty
  | [part] => part
  | parts => .concat parts

def ofBranches : List Tree → Tree
  | [branch] => branch
  | branches => .alternation branches

end Tree

mutual

def ClassTree.depth : ClassTree → Nat
  | .bracketed _ body => body.depth + 1
  | .union items => match items with
    | [] => 0
    | items => classDepths items + 1
  | .combine _ left right => max left.depth right.depth + 1
  | _ => 0
termination_by structural t => t

def classDepths : List ClassTree → Nat
  | [] => 0
  | t :: ts => max t.depth (classDepths ts)
termination_by structural ts => ts

end

mutual

def Tree.depth : Tree → Nat
  | .bracketed _ body => body.depth + 1
  | .repetition _ _ body => body.depth + 1
  | .group _ _ body => body.depth + 1
  | .concat parts => treeDepths parts + 1
  | .alternation branches => treeDepths branches + 1
  | _ => 0
termination_by structural t => t

def treeDepths : List Tree → Nat
  | [] => 0
  | t :: ts => max t.depth (treeDepths ts)
termination_by structural ts => ts

end

def depthLimit : Nat := 250

end Switchyard.Pattern
