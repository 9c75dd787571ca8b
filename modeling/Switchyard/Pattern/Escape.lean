import Switchyard.Pattern.Cursor

/-! Escape sequences of patterns. -/

namespace Switchyard.Pattern

inductive Escape where
  | literal (l : Literal)
  | anchor (a : Anchor)
  | property (negated : Bool) (query : Query)
  | shorthand (negated : Bool) (kind : Shorthand)

namespace Escape

def isHex (c : Char) : Bool := (Numeral.digit? 16 c).isSome

def charOf? (n : Nat) : Option Char := if Nat.isValidChar n then some (Char.ofNat n) else none

def hexDigits : (count : Nat) → (acc : List Char) → Cursor → Option (List Char × Cursor)
  | 0, acc, c => some (acc.reverse, c)
  | count + 1, acc, c =>
    match c.rest with
    | x :: rest => if isHex x then hexDigits count (x :: acc) (c.past rest) else none
    | [] => none

def hexLiteral (count : Nat) (c : Cursor) : Option (Literal × Cursor) :=
  match c.rest with
  | '\x7b' :: rest =>
    let (ds, c) := (c.past rest).take isHex
    match c.rest with
    | '\x7d' :: rest =>
      if ds.isEmpty then none
      else (charOf? (Unicode.hex ds)).map fun ch => (⟨ch, false⟩, c.past rest)
    | _ => none
  | _ => do
    let (ds, c) ← hexDigits count [] c
    let ch ← charOf? (Unicode.hex ds)
    pure (⟨ch, count == 2⟩, c)

def splitAt? (mark : List Char) : List Char → Option (List Char × List Char)
  | [] => none
  | c :: cs =>
    if mark.isPrefixOf (c :: cs) then some ([], (c :: cs).drop mark.length)
    else (splitAt? mark cs).map fun (before, after) => (c :: before, after)

def propertyOf (negated : Bool) (text : List Char) : Escape :=
  match splitAt? ['!', '='] text with
  | some (p, v) => property (!negated) (.valued p v)
  | none =>
    match splitAt? [':'] text with
    | some (p, v) => property negated (.valued p v)
    | none =>
      match splitAt? ['='] text with
      | some (p, v) => property negated (.valued p v)
      | none => property negated (.named text)

def propertyName (negated : Bool) (c : Cursor) : Option (Escape × Cursor) :=
  match c.rest with
  | '\x7b' :: rest =>
    let (text, c) := (c.past rest).take (· != '\x7d')
    match c.rest with
    | '\x7d' :: rest => some (propertyOf negated text, c.moveTo rest)
    | _ => none
  | '\\' :: _ => none
  | x :: rest => some (property negated (.named [x]), c.past rest)
  | [] => none

def isMeta (c : Char) : Bool := "\\.+*?()|[]\x7b\x7d^$#&-~".toList.contains c

def isSelf (c : Char) : Bool :=
  isMeta c || (c.toNat < 0x80 && !c.isAlphanum && c != '<' && c != '>')

def control? : Char → Option Char
  | 'a' => some '\x07'
  | 'f' => some '\x0c'
  | 't' => some '\t'
  | 'n' => some '\n'
  | 'r' => some '\r'
  | 'v' => some '\x0b'
  | _ => none

def isBoundaryLetter (c : Char) : Bool := c.isAlpha || c == '-'

def boundaryOf? (name : List Char) : Option Anchor :=
  match String.ofList name with
  | "start" => some .wordStart
  | "end" => some .wordEnd
  | "start-half" => some .wordStartHalf
  | "end-half" => some .wordEndHalf
  | _ => none

/-- A word boundary, which may say between braces which one it is. Braces with
anything else than letters are left alone. -/
def boundary (c : Cursor) : Option (Escape × Cursor) :=
  match c.rest with
  | '\x7b' :: rest => do
    let inner ← c.past? rest
    if inner.rest.head?.any isBoundaryLetter then
      let (name, inner) := inner.take isBoundaryLetter
      match inner.rest with
      | '\x7d' :: rest => (boundaryOf? name).map fun a => (anchor a, inner.moveTo rest)
      | _ => none
    else pure (anchor .wordBoundary, c)
  | _ => some (anchor .wordBoundary, c)

def parse (c : Cursor) : Option (Escape × Cursor) :=
  let hexOf (count : Nat) (rest : List Char) : Option (Escape × Cursor) := do
    let c ← c.past? rest
    let (l, c) ← hexLiteral count c
    pure (literal l, c)
  let short (negated : Bool) (s : Shorthand) (rest : List Char) : Option (Escape × Cursor) :=
    some (shorthand negated s, c.moveTo rest)
  let place (a : Anchor) (rest : List Char) : Option (Escape × Cursor) := some (anchor a, c.moveTo rest)
  match c.rest with
  | [] => none
  | 'x' :: rest => hexOf 2 rest
  | 'u' :: rest => hexOf 4 rest
  | 'U' :: rest => hexOf 8 rest
  | 'p' :: rest => (c.past? rest).bind (propertyName false)
  | 'P' :: rest => (c.past? rest).bind (propertyName true)
  | 'd' :: rest => short false .digit rest
  | 's' :: rest => short false .blank rest
  | 'w' :: rest => short false .word rest
  | 'D' :: rest => short true .digit rest
  | 'S' :: rest => short true .blank rest
  | 'W' :: rest => short true .word rest
  | 'A' :: rest => place .textStart rest
  | 'z' :: rest => place .textEnd rest
  | 'B' :: rest => place .notWordBoundary rest
  | '<' :: rest => place .wordStart rest
  | '>' :: rest => place .wordEnd rest
  | 'b' :: rest => boundary (c.moveTo rest)
  | x :: rest =>
    if isSelf x then some (literal ⟨x, false⟩, c.moveTo rest)
    else (control? x).map fun ch => (literal ⟨ch, false⟩, c.moveTo rest)

end Escape

end Switchyard.Pattern
