import Switchyard.Pattern.Tree
import Switchyard.Unicode.Folding

/-! The meaning of patterns: steps over one character out of a set, conditions on
a place, and their combinations. -/

namespace Switchyard.Pattern

inductive Place where
  | textStart
  | textEnd
  | lineStart
  | lineEnd
  | lineStartCrlf
  | lineEndCrlf
  | wordBoundary (unicode : Bool)
  | notWordBoundary (unicode : Bool)
  | wordStart (unicode : Bool)
  | wordEnd (unicode : Bool)
  | wordStartHalf (unicode : Bool)
  | wordEndHalf (unicode : Bool)
deriving DecidableEq, Repr

inductive Node (σ π : Type) where
  | empty
  | char (set : σ)
  | place (p : π)
  | concat (parts : List (Node σ π))
  | alternation (branches : List (Node σ π))
  | repetition (min : Nat) (max : Option Nat) (body : Node σ π)
  | capture (body : Node σ π)

structure Options where
  caseInsensitive : Bool := false
  multiLine : Bool := false
  dotAll : Bool := false
  unicode : Bool := true
  crlf : Bool := false

namespace Options

def set (m : Options) : Flag × Bool → Options
  | (.caseInsensitive, on) => { m with caseInsensitive := on }
  | (.multiLine, on) => { m with multiLine := on }
  | (.dotAll, on) => { m with dotAll := on }
  | (.unicode, on) => { m with unicode := on }
  | (.crlf, on) => { m with crlf := on }
  | (.swapGreed, _) => m
  | (.verbose, _) => m

def apply (m : Options) (settings : Settings) : Options := settings.foldl set m

def fold (m : Options) (s : CharSet) : CharSet :=
  if !m.caseInsensitive then s
  else if m.unicode then Unicode.Folding.close s
  else Unicode.Folding.closeAscii s

/-- Without Unicode, a class that goes beyond ASCII is one of bytes, and these
have no meaning in texts. -/
def checked (m : Options) (s : CharSet) : Option CharSet :=
  if m.unicode || s.isAscii then some s else none

def finish (m : Options) (negated : Bool) (s : CharSet) : Option CharSet :=
  let s := m.fold s
  m.checked (if negated then s.complement else s)

def literal? (m : Options) (l : Literal) : Option CharSet :=
  if !m.unicode && l.isByte && !decide (l.char.toNat < 0x80) then none
  else some (.singleton l.char.toNat)

def member? (m : Options) (l : Literal) : Option Nat :=
  if !m.unicode && !decide (l.char.toNat < 0x80) then none else some l.char.toNat

def shorthandSet (m : Options) : Shorthand → CharSet
  | .digit => if m.unicode then Unicode.digits else .ofRanges [(0x30, 0x39)]
  | .blank => if m.unicode then Unicode.blanks else .ofRanges [(0x09, 0x0D), (0x20, 0x20)]
  | .word =>
    if m.unicode then Unicode.words
    else .ofRanges [(0x30, 0x39), (0x41, 0x5A), (0x5F, 0x5F), (0x61, 0x7A)]

/-- These classes hold both cases of their letters, so case is no question. -/
def shorthand? (m : Options) (negated : Bool) (s : Shorthand) : Option CharSet :=
  let set := m.shorthandSet s
  m.checked (if negated then set.complement else set)

def property? (m : Options) (negated : Bool) (q : Query) : Option CharSet :=
  if m.unicode then q.set?.bind (m.finish negated) else none

def dot? (m : Options) : Option CharSet :=
  if !m.unicode then none
  else if m.dotAll then some .full
  else if m.crlf then some (CharSet.complement (.ofRanges [(0x0A, 0x0A), (0x0D, 0x0D)]))
  else some (CharSet.complement (.singleton 0x0A))

def place (m : Options) : Anchor → Place
  | .lineStart => if m.multiLine then (if m.crlf then .lineStartCrlf else .lineStart) else .textStart
  | .lineEnd => if m.multiLine then (if m.crlf then .lineEndCrlf else .lineEnd) else .textEnd
  | .textStart => .textStart
  | .textEnd => .textEnd
  | .wordBoundary => .wordBoundary m.unicode
  | .notWordBoundary => .notWordBoundary m.unicode
  | .wordStart => .wordStart m.unicode
  | .wordEnd => .wordEnd m.unicode
  | .wordStartHalf => .wordStartHalf m.unicode
  | .wordEndHalf => .wordEndHalf m.unicode

/-- The two sides of an operation; case is taken into account before it. -/
def combine (m : Options) (op : SetOperation) (left right : CharSet) : CharSet :=
  let left := m.fold left
  let right := m.fold right
  match op with
  | .intersection => left.intersect right
  | .difference => left.difference right
  | .symmetricDifference => left.symmetricDifference right

end Options

mutual

def ClassTree.set? (m : Options) : ClassTree → Option CharSet
  | .literal l => (m.member? l).map .singleton
  | .range first last =>
    match m.member? first, m.member? last with
    | some a, some b => some (.ofRanges [(a, b)])
    | _, _ => none
  | .posix negated set => m.finish negated set
  | .property negated query => m.property? negated query
  | .shorthand negated s => m.shorthand? negated s
  | .bracketed negated body => (body.set? m).bind (m.finish negated)
  | .union items => (classSets? m items).map .unionAll
  | .combine op left right =>
    match left.set? m, right.set? m with
    | some a, some b => some (m.combine op a b)
    | _, _ => none
termination_by structural t => t

def classSets? (m : Options) : List ClassTree → Option (List CharSet)
  | [] => some []
  | t :: ts =>
    match t.set? m, classSets? m ts with
    | some s, some ss => some (s :: ss)
    | _, _ => none
termination_by structural ts => ts

end

namespace Node

variable {σ π : Type}

mutual

def isBlank : Node σ π → Bool
  | empty => true
  | char _ => false
  | place _ => true
  | concat parts => areBlank parts
  | alternation branches => areBlank branches
  | repetition _ max body => max == some 0 || body.isBlank
  | capture body => body.isBlank
termination_by structural n => n

def areBlank : List (Node σ π) → Bool
  | [] => true
  | n :: ns => n.isBlank && areBlank ns
termination_by structural ns => ns

end

def repeated (min : Nat) (max : Option Nat) (body : Node σ π) : Node σ π :=
  if max = some 0 then empty
  else if min = 1 ∧ max = some 1 then body
  else if body.isBlank then repetition (Nat.min min 1) (some (Nat.min (max.getD 1) 1)) body
  else repetition min max body

mutual

def map {σ' π' : Type} (f : σ → σ') (g : π → π') : Node σ π → Node σ' π'
  | empty => empty
  | char set => char (f set)
  | place p => place (g p)
  | concat parts => concat (mapAll f g parts)
  | alternation branches => alternation (mapAll f g branches)
  | repetition min max body => repetition min max (body.map f g)
  | capture body => capture (body.map f g)
termination_by structural n => n

def mapAll {σ' π' : Type} (f : σ → σ') (g : π → π') : List (Node σ π) → List (Node σ' π')
  | [] => []
  | n :: ns => n.map f g :: mapAll f g ns
termination_by structural ns => ns

end

end Node

mutual

/-- The meaning of a pattern, if it has one, and the flags that hold behind it.
Flags set inside a group hold up to its end. -/
def Tree.node? (m : Options) : Tree → Option (Node CharSet Place × Options)
  | .empty => some (.empty, m)
  | .settings s => some (.empty, m.apply s)
  | .literal l => (m.literal? l).map fun s => (.char (m.fold s), m)
  | .dot => m.dot?.map fun s => (.char s, m)
  | .anchor a => some (.place (m.place a), m)
  | .property negated query => (m.property? negated query).map fun s => (.char s, m)
  | .shorthand negated s => (m.shorthand? negated s).map fun s => (.char s, m)
  | .bracketed negated body =>
    ((body.set? m).bind (m.finish negated)).map fun s => (.char s, m)
  | .repetition min max body => (body.node? m).map fun (n, m) => (.repeated min max n, m)
  | .group captures s body =>
    (body.node? (m.apply s)).map fun (n, _) => (if captures then .capture n else n, m)
  | .concat parts => (nodes? m parts).map fun (ns, m) => (.concat ns, m)
  | .alternation branches => (nodes? m branches).map fun (ns, m) => (.alternation ns, m)
termination_by structural t => t

def nodes? (m : Options) : List Tree → Option (List (Node CharSet Place) × Options)
  | [] => some ([], m)
  | t :: ts =>
    match t.node? m with
    | none => none
    | some (n, m) => (nodes? m ts).map fun (ns, m) => (n :: ns, m)
termination_by structural ts => ts

end

end Switchyard.Pattern
