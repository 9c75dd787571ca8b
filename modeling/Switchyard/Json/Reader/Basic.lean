import Switchyard.Json.Fault

/-! Reading a text from the left. A reader takes the characters that are left
and gives a value with the characters after it, or a fault with the place where
it was noticed. -/

namespace Switchyard.Json.Reader

/-- A fault, and how many bytes of the text were left unread there. -/
structure Located where
  fault : Fault
  unread : Nat
deriving DecidableEq, Repr

abbrev Result (α : Type) := Except Located α

def bytes : List Char → Nat
  | [] => 0
  | c :: cs => c.utf8Size + bytes cs

def fail {α : Type} (rest : List Char) (m : Malformation) : Result α :=
  .error ⟨.malformed m, bytes rest⟩

/-- A fault noticed at the first byte of `rest`, which counts as read; at the
end of the text there is none. -/
def failAt {α : Type} (rest : List Char) (m : Malformation) : Result α :=
  .error ⟨.malformed m, bytes rest - 1⟩

def mismatch {α : Type} (rest : List Char) (m : Mismatch) : Result α :=
  .error ⟨.mismatched m, bytes rest⟩

def isBlank (c : Char) : Bool := c == ' ' || c == '\n' || c == '\t' || c == '\r'

def skipBlanks (cs : List Char) : List Char := cs.dropWhile isBlank

def word : (expected : List Char) → List Char → Result (List Char)
  | [], cs => .ok cs
  | _ :: _, [] => fail [] .endInValue
  | e :: es, c :: cs => if c = e then word es cs else failAt (c :: cs) .expectedWord

def hexDigit? (c : Char) : Option Nat :=
  if '0' ≤ c ∧ c ≤ '9' then some (c.toNat - '0'.toNat)
  else if 'a' ≤ c ∧ c ≤ 'f' then some (c.toNat - 'a'.toNat + 10)
  else if 'A' ≤ c ∧ c ≤ 'F' then some (c.toNat - 'A'.toNat + 10)
  else none

/-- Four hexadecimal digits. Otherwise four bytes count as read, whatever they
are, or all that is left if there are fewer. -/
def hexQuad (cs : List Char) : Result (Nat × List Char) :=
  let invalid : Result (Nat × List Char) :=
    if bytes cs < 4 then fail [] .endInString
    else .error ⟨.malformed .invalidEscape, bytes cs - 4⟩
  match cs with
  | a :: b :: c :: d :: rest =>
    match hexDigit? a, hexDigit? b, hexDigit? c, hexDigit? d with
    | some a, some b, some c, some d => .ok (((a * 16 + b) * 16 + c) * 16 + d, rest)
    | _, _, _, _ => invalid
  | _ => invalid

def unicodeEscape (cs : List Char) : Result (Char × List Char) :=
  match hexQuad cs with
  | .error e => .error e
  | .ok (high, rest) =>
    if 0xDC00 ≤ high ∧ high ≤ 0xDFFF then fail rest .loneSurrogate
    else if 0xD800 ≤ high ∧ high ≤ 0xDBFF then
      match rest with
      | '\\' :: 'u' :: rest =>
        match hexQuad rest with
        | .error e => .error e
        | .ok (low, rest) =>
          if 0xDC00 ≤ low ∧ low ≤ 0xDFFF then
            .ok (Char.ofNat (0x10000 + (high - 0xD800) * 0x400 + (low - 0xDC00)), rest)
          else fail rest .loneSurrogate
      | ['\\'] => fail [] .endInString
      | '\\' :: rest => failAt rest .unfinishedSurrogate
      | [] => fail [] .endInString
      | rest => failAt rest .unfinishedSurrogate
    else .ok (Char.ofNat high, rest)

def simpleEscape? : Char → Option Char
  | '"' => some '"'
  | '\\' => some '\\'
  | '/' => some '/'
  | 'b' => some '\x08'
  | 'f' => some '\x0c'
  | 'n' => some '\n'
  | 'r' => some '\r'
  | 't' => some '\t'
  | _ => none

/-- The rest of a string after its opening quote, added to what `acc` holds in
reverse. Each step reads a character, so the length of the text is fuel enough. -/
def stringTail : (fuel : Nat) → (acc : List Char) → List Char → Result (String × List Char)
  | 0, _, cs => fail cs .endInString
  | _ + 1, _, [] => fail [] .endInString
  | _ + 1, acc, '"' :: cs => .ok (String.ofList acc.reverse, cs)
  | _ + 1, _, ['\\'] => fail [] .endInString
  | fuel + 1, acc, '\\' :: 'u' :: cs =>
    match unicodeEscape cs with
    | .error e => .error e
    | .ok (c, rest) => stringTail fuel (c :: acc) rest
  | fuel + 1, acc, '\\' :: c :: cs =>
    match simpleEscape? c with
    | some c => stringTail fuel (c :: acc) cs
    | none => failAt (c :: cs) .invalidEscape
  | fuel + 1, acc, c :: cs =>
    if c.toNat < 0x20 then failAt (c :: cs) .controlCharacter
    else stringTail fuel (c :: acc) cs

def string (cs : List Char) : Result (String × List Char) := stringTail (cs.length + 1) [] cs

def nextItem (first : Bool) (cs : List Char) : Result (Option (List Char)) :=
  match skipBlanks cs with
  | [] => fail [] .endInList
  | ']' :: _ => .ok none
  | ',' :: rest =>
    if first then .ok (some (',' :: rest))
    else match skipBlanks rest with
      | [] => fail [] .endInValue
      | ']' :: rest => failAt (']' :: rest) .trailingComma
      | rest => .ok (some rest)
  | rest => if first then .ok (some rest) else failAt rest .expectedListComma

def closeList (cs : List Char) : Result (List Char) :=
  match skipBlanks cs with
  | [] => fail [] .endInList
  | ']' :: rest => .ok rest
  | ',' :: rest =>
    match skipBlanks rest with
    | ']' :: rest => failAt (']' :: rest) .trailingComma
    | rest => failAt rest .trailingCharacters
  | rest => failAt rest .trailingCharacters

def nextKey (first : Bool) (cs : List Char) : Result (Option (List Char)) :=
  match skipBlanks cs with
  | [] => fail [] .endInObject
  | '\x7d' :: _ => .ok none
  | rest =>
    if first then
      match rest with
      | '"' :: rest => .ok (some rest)
      | rest => failAt rest .keyNotString
    else
      match rest with
      | ',' :: rest =>
        match skipBlanks rest with
        | [] => fail [] .endInValue
        | '"' :: rest => .ok (some rest)
        | '\x7d' :: rest => failAt ('\x7d' :: rest) .trailingComma
        | rest => failAt rest .keyNotString
      | rest => failAt rest .expectedObjectComma

def closeObject (cs : List Char) : Result (List Char) :=
  match skipBlanks cs with
  | [] => fail [] .endInObject
  | '\x7d' :: rest => .ok rest
  | ',' :: rest => failAt (',' :: rest) .trailingComma
  | rest => failAt rest .trailingCharacters

def colon (cs : List Char) : Result (List Char) :=
  match skipBlanks cs with
  | [] => fail [] .endInObject
  | ':' :: rest => .ok rest
  | rest => failAt rest .expectedColon

end Switchyard.Json.Reader
