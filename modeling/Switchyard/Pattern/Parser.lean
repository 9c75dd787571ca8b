import Switchyard.Pattern.Class
import Switchyard.Unicode.Current

/-! Reading of patterns. -/

namespace Switchyard.Pattern

namespace Tree

def flag? : Char → Option Flag
  | 'i' => some .caseInsensitive
  | 'm' => some .multiLine
  | 's' => some .dotAll
  | 'U' => some .swapGreed
  | 'u' => some .unicode
  | 'R' => some .crlf
  | 'x' => some .verbose
  | _ => none

/-- Flags up to a colon or a parenthesis, each at most once. A hyphen switches
off those behind it, of which there is at least one. -/
def flags : (on : Bool) → (known : Settings) → List Char → Option (Settings × List Char)
  | _, _, [] => none
  | on, known, c :: cs =>
    if c = ':' ∨ c = ')' then some (known.reverse, c :: cs)
    else if c = '-' then
      if !on then none
      else match cs with
        | ':' :: _ | ')' :: _ => none
        | cs => flags false known cs
    else
      match flag? c with
      | none => none
      | some f => if known.any (·.1 = f) then none else flags on ((f, on) :: known) cs

def setting? (known : Settings) (f : Flag) : Option Bool :=
  (known.find? (·.1 = f)).map Prod.snd

def isNameChar (first : Bool) (c : Char) : Bool :=
  c == '_' || Unicode.Current.letters.contains c ||
    (!first && (c == '.' || c == '[' || c == ']' || Unicode.Current.numbers.contains c))

def groupName (cs : List Char) : Option (List Char × List Char) :=
  let name := cs.takeWhile (· != '>')
  match name, cs.dropWhile (· != '>') with
  | first :: more, '>' :: rest =>
    if isNameChar true first && more.all (isNameChar false) then some (name, rest) else none
  | _, _ => none

inductive Opening where
  | group (captures : Bool) (known : Settings)
  | settings (known : Settings)

def opening (c : Cursor) : Option (Opening × Cursor) :=
  let c := c.skip
  let named (rest : List Char) : Option (Opening × Cursor) := do
    let (name, rest) ← groupName rest
    if c.names.contains name then none
    else pure (.group true [], { c with rest, names := name :: c.names })
  match c.rest with
  | '?' :: '=' :: _ | '?' :: '!' :: _ | '?' :: '<' :: '=' :: _ | '?' :: '<' :: '!' :: _ => none
  | '?' :: 'P' :: '<' :: rest => named rest
  | '?' :: '<' :: rest => named rest
  | '?' :: rest => do
    let (s, rest) ← flags true [] rest
    match rest with
    | ')' :: rest => if s.isEmpty then none else pure (.settings s, c.moveTo rest)
    | _ :: rest => pure (.group false s, c.moveTo rest)
    | [] => none
  | _ => some (.group true [], c)

def repeatLast (min : Nat) (max : Option Nat) : List Tree → Option (List Tree)
  | [] => none
  | .empty :: _ => none
  | .settings _ :: _ => none
  | part :: parts => some (repetition min max part :: parts)

def dropLazy (c : Cursor) : Cursor :=
  match c.rest with
  | '?' :: rest => c.moveTo rest
  | _ => c

def count (c : Cursor) : Option (Option Nat × Cursor) :=
  let c := c.moveTo (c.rest.dropWhile Text.isBlank)
  let (ds, c) := c.take Digits.isDigit
  let (_, c) := c.take Text.isBlank
  if ds.isEmpty then some (none, c)
  else if Digits.value ds < 0x100000000 then some (some (Digits.value ds), c)
  else none

def bounds (c : Cursor) (rest : List Char) : Option (Nat × Option Nat × Cursor) := do
  let (least, c) ← count (← c.past? rest)
  let least ← least
  let (most, c) ← match c.rest with
    | ',' :: rest => do
      let c ← c.past? rest
      match c.rest with
      | '\x7d' :: _ => pure (none, c)
      | _ =>
        let (most, c) ← count c
        pure (some (← most), c)
    | _ => pure (some least, c)
  match c.rest with
  | '\x7d' :: rest => if most.all (least ≤ ·) then some (least, most, c.past rest) else none
  | _ => none

def ofEscape : Escape → Tree
  | .literal l => literal l
  | .anchor a => anchor a
  | .property negated query => property negated query
  | .shorthand negated s => shorthand negated s

/-- The rest of a group up to its parenthesis, from the branches and, in reverse,
the parts read so far. Every step reads a character. -/
def branches : (fuel : Nat) → (done parts : List Tree) → Cursor → Option (Tree × Cursor)
  | 0, _, _, _ => none
  | fuel + 1, done, parts, c =>
    let c := c.skip
    let here (done : List Tree) : List Tree := done ++ [ofParts parts.reverse]
    let repeated (min : Nat) (max : Option Nat) (c : Cursor) : Option (Tree × Cursor) :=
      match repeatLast min max parts with
      | none => none
      | some parts => branches fuel done parts (dropLazy c)
    match c.rest with
    | [] => some (ofBranches (here done), c)
    | ')' :: _ => some (ofBranches (here done), c)
    | '|' :: rest => branches fuel (here done) [] (c.moveTo rest)
    | '(' :: rest =>
      match opening (c.moveTo rest) with
      | none => none
      | some (.settings s, c) =>
        branches fuel done (settings s :: parts)
          { c with verbose := (setting? s .verbose).getD c.verbose }
      | some (.group captures s, inner) =>
        let verbose := (setting? s .verbose).getD c.verbose
        match branches fuel [] [] { inner with verbose } with
        | none => none
        | some (body, inner) =>
          match inner.rest with
          | ')' :: rest =>
            branches fuel done (group captures s body :: parts)
              { inner with rest, verbose := c.verbose }
          | _ => none
    | '[' :: rest =>
      match ClassTree.parse c rest with
      | none => none
      | some (t, c) => branches fuel done (t :: parts) c
    | '?' :: rest => repeated 0 (some 1) (c.moveTo rest)
    | '*' :: rest => repeated 0 none (c.moveTo rest)
    | '+' :: rest => repeated 1 none (c.moveTo rest)
    | '\x7b' :: rest =>
      match bounds c rest with
      | none => none
      | some (least, most, c) => repeated least most c
    | '\\' :: rest =>
      match Escape.parse (c.moveTo rest) with
      | none => none
      | some (e, c) => branches fuel done (ofEscape e :: parts) c
    | '.' :: rest => branches fuel done (dot :: parts) (c.moveTo rest)
    | '^' :: rest => branches fuel done (anchor .lineStart :: parts) (c.moveTo rest)
    | '$' :: rest => branches fuel done (anchor .lineEnd :: parts) (c.moveTo rest)
    | x :: rest => branches fuel done (literal ⟨x, false⟩ :: parts) (c.moveTo rest)

def parse (source : String) : Option Tree := do
  let cs := source.toList
  let (tree, c) ← branches (cs.length + 1) [] [] ⟨cs, false, []⟩
  if c.rest.isEmpty && tree.depth ≤ depthLimit then some tree else none

end Tree

end Switchyard.Pattern
