import Switchyard.Json.Reader.Literal

/-! Reading of whole values. Arrays and objects may nest to a given depth; the
fuel of the mutual functions is twice the length of the text, since each call
reads a character or passes on to one that does. -/

namespace Switchyard.Json.Reader

def depthLimit : Nat := 127

def mapValue {α β : Type} (f : α → β) (r : Result (α × List Char)) : Result (β × List Char) :=
  match r with
  | .error e => .error e
  | .ok (a, rest) => .ok (f a, rest)

def constant {α : Type} (value : α) (r : Result (List Char)) : Result (α × List Char) :=
  match r with
  | .error e => .error e
  | .ok rest => .ok (value, rest)

mutual

def valueWith : (fuel depth : Nat) → List Char → Result (Json × List Char)
  | 0, _, cs => fail cs .tooDeep
  | fuel + 1, depth, cs =>
    match skipBlanks cs with
    | [] => fail [] .endInValue
    | 'n' :: rest => constant .null (word "ull".toList rest)
    | 't' :: rest => constant (.bool true) (word "rue".toList rest)
    | 'f' :: rest => constant (.bool false) (word "alse".toList rest)
    | '-' :: rest => mapValue .num (number true rest)
    | '"' :: rest => mapValue .str (string rest)
    | '[' :: rest =>
      match depth with
      | 0 => failAt ('[' :: rest) .tooDeep
      | depth + 1 => itemsWith fuel depth true [] rest
    | '\x7b' :: rest =>
      match depth with
      | 0 => failAt ('\x7b' :: rest) .tooDeep
      | depth + 1 => membersWith fuel depth true [] rest
    | c :: rest =>
      if Digits.isDigit c then mapValue .num (number false (c :: rest))
      else failAt (c :: rest) .expectedValue
termination_by structural fuel => fuel

def itemsWith : (fuel depth : Nat) → (first : Bool) → (acc : List Json) → List Char →
    Result (Json × List Char)
  | 0, _, _, _, cs => fail cs .tooDeep
  | fuel + 1, depth, first, acc, cs =>
    match nextItem first cs with
    | .error e => .error e
    | .ok none => constant (.arr acc.reverse) (closeList cs)
    | .ok (some rest) =>
      match valueWith fuel depth rest with
      | .error e => .error e
      | .ok (v, rest) => itemsWith fuel depth false (v :: acc) rest
termination_by structural fuel => fuel

def membersWith : (fuel depth : Nat) → (first : Bool) → (acc : List (String × Json)) →
    List Char → Result (Json × List Char)
  | 0, _, _, _, cs => fail cs .tooDeep
  | fuel + 1, depth, first, acc, cs =>
    match nextKey first cs with
    | .error e => .error e
    | .ok none => constant (.obj acc) (closeObject cs)
    | .ok (some rest) =>
      match string rest with
      | .error e => .error e
      | .ok (key, rest) =>
        match colon rest with
        | .error e => .error e
        | .ok rest =>
          match valueWith fuel depth rest with
          | .error e => .error e
          | .ok (v, rest) => membersWith fuel depth false (insert key v acc) rest
termination_by structural fuel => fuel

end

def fuelFor (cs : List Char) : Nat := 2 * cs.length + 2

def value (depth : Nat) (cs : List Char) : Result (Json × List Char) :=
  valueWith (fuelFor cs) depth cs

def atEnd {α : Type} (r : Result (α × List Char)) : Result α :=
  match r with
  | .error e => .error e
  | .ok (a, rest) =>
    match skipBlanks rest with
    | [] => .ok a
    | rest => failAt rest .trailingCharacters

end Switchyard.Json.Reader
