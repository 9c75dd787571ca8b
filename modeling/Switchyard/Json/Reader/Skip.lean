import Switchyard.Json.Reader.Value

/-! Skipping of values nobody asks for. Only their form is checked: numbers may
be of any size, surrogates need no partner, and nesting has no limit. -/

namespace Switchyard.Json.Reader

def skipString : (fuel : Nat) → List Char → Result (List Char)
  | 0, cs => fail cs .endInString
  | _ + 1, [] => fail [] .endInString
  | _ + 1, '"' :: cs => .ok cs
  | _ + 1, ['\\'] => fail [] .endInString
  | fuel + 1, '\\' :: 'u' :: cs =>
    match hexQuad cs with
    | .error e => .error e
    | .ok (_, rest) => skipString fuel rest
  | fuel + 1, '\\' :: c :: cs =>
    if (simpleEscape? c).isSome then skipString fuel cs else failAt (c :: cs) .invalidEscape
  | fuel + 1, c :: cs =>
    if c.toNat < 0x20 then fail (c :: cs) .controlCharacter else skipString fuel cs

def skipExponent (cs : List Char) : Result (List Char) :=
  let cs := match cs with
    | '-' :: cs | '+' :: cs => cs
    | cs => cs
  match cs with
  | [] => fail [] .invalidNumber
  | c :: rest => if Digits.isDigit c then .ok (skipDigits rest) else failAt (c :: rest) .invalidNumber

def skipFraction (cs : List Char) : Result (List Char) :=
  if startsWithDigit cs then
    match skipDigits cs with
    | 'e' :: rest | 'E' :: rest => skipExponent rest
    | rest => .ok rest
  else failAt cs .invalidNumber

def skipNumber (cs : List Char) : Result (List Char) :=
  let afterInteger : List Char → Result (List Char)
    | '.' :: rest => skipFraction rest
    | 'e' :: rest | 'E' :: rest => skipExponent rest
    | rest => .ok rest
  match cs with
  | [] => fail [] .invalidNumber
  | '0' :: rest => if startsWithDigit rest then failAt rest .invalidNumber else afterInteger rest
  | c :: rest =>
    if Digits.isDigit c then afterInteger (skipDigits rest) else failAt (c :: rest) .invalidNumber

mutual

def skipWith : (fuel : Nat) → List Char → Result (List Char)
  | 0, cs => fail cs .endInValue
  | fuel + 1, cs =>
    match skipBlanks cs with
    | [] => fail [] .endInValue
    | 'n' :: rest => word "ull".toList rest
    | 't' :: rest => word "rue".toList rest
    | 'f' :: rest => word "alse".toList rest
    | '-' :: rest => skipNumber rest
    | '"' :: rest => skipString (rest.length + 1) rest
    | '[' :: rest =>
      match skipBlanks rest with
      | [] => fail [] .endInList
      | ']' :: rest => .ok rest
      | rest => skipItems fuel rest
    | '\x7b' :: rest =>
      match skipBlanks rest with
      | [] => fail [] .endInObject
      | '\x7d' :: rest => .ok rest
      | rest => skipMembers fuel rest
    | c :: rest =>
      if Digits.isDigit c then skipNumber (c :: rest) else failAt (c :: rest) .expectedValue
termination_by structural fuel => fuel

def skipItems : (fuel : Nat) → List Char → Result (List Char)
  | 0, cs => fail cs .endInList
  | fuel + 1, cs =>
    match skipWith fuel cs with
    | .error e => .error e
    | .ok rest =>
      match skipBlanks rest with
      | [] => fail [] .endInList
      | ']' :: rest => .ok rest
      | ',' :: rest => skipItems fuel rest
      | rest => failAt rest .expectedListComma
termination_by structural fuel => fuel

def skipMembers : (fuel : Nat) → List Char → Result (List Char)
  | 0, cs => fail cs .endInObject
  | fuel + 1, cs =>
    match skipBlanks cs with
    | [] => fail [] .endInObject
    | '"' :: rest =>
      match skipString (rest.length + 1) rest with
      | .error e => .error e
      | .ok rest =>
        match colon rest with
        | .error e => .error e
        | .ok rest =>
          match skipWith fuel rest with
          | .error e => .error e
          | .ok rest =>
            match skipBlanks rest with
            | [] => fail [] .endInObject
            | '\x7d' :: rest => .ok rest
            | ',' :: rest => skipMembers fuel rest
            | rest => failAt rest .expectedObjectComma
    | rest => failAt rest .keyNotString
termination_by structural fuel => fuel

end

def skip (cs : List Char) : Result (List Char) := skipWith (fuelFor cs) cs

end Switchyard.Json.Reader
