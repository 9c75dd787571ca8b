import Switchyard.Json.Reader.Skip
import Switchyard.Json.Text

/-! Decoders. A decoder reads one kind of value in two ways, from a text and
from a value that is already there; both accept the same values. -/

namespace Switchyard

open Json.Reader (Result)

structure Decoder (α : Type) where
  text : (depth : Nat) → List Char → Result (α × List Char)
  inline : Json → Except Mismatch α

namespace Decoder

open Json.Reader

/-- Reads a value as far as a mismatch shows it: scalars to their end, arrays
and objects not at all. -/
def found : List Char → Result (Found × List Char)
  | 'n' :: rest => constant .null (word "ull".toList rest)
  | 't' :: rest => constant (.boolean true) (word "rue".toList rest)
  | 'f' :: rest => constant (.boolean false) (word "alse".toList rest)
  | '-' :: rest => mapValue .number (number true rest)
  | '"' :: rest => mapValue .string (string rest)
  | '[' :: rest => .ok (.sequence, '[' :: rest)
  | '\x7b' :: rest => .ok (.map, '\x7b' :: rest)
  | [] => failAt [] .expectedValue
  | c :: rest =>
    if Digits.isDigit c then mapValue .number (number false (c :: rest))
    else failAt (c :: rest) .expectedValue

def refuse {α : Type} (expected : String) (cs : List Char) : Result α :=
  match found cs with
  | .error e => .error e
  | .ok (f, rest) => mismatch rest (.wrongType f expected)

def refuseInline {α : Type} (expected : String) (v : Json) : Except Mismatch α :=
  .error (.wrongType (.ofJson v) expected)

def json : Decoder Json where
  text := Json.Reader.value
  inline := .ok

def string : Decoder String where
  text _ cs :=
    match skipBlanks cs with
    | [] => fail [] .endInValue
    | '"' :: rest => Json.Reader.string rest
    | rest => refuse "a string" rest
  inline
    | .str s => .ok s
    | v => refuseInline "a string" v

def bool : Decoder Bool where
  text _ cs :=
    match skipBlanks cs with
    | [] => fail [] .endInValue
    | 't' :: rest => constant true (word "rue".toList rest)
    | 'f' :: rest => constant false (word "alse".toList rest)
    | rest => refuse "a boolean" rest
  inline
    | .bool b => .ok b
    | v => refuseInline "a boolean" v

def unit : Decoder Unit where
  text _ cs :=
    match skipBlanks cs with
    | [] => fail [] .endInValue
    | 'n' :: rest => constant () (word "ull".toList rest)
    | rest => refuse "unit" rest
  inline
    | .null => .ok ()
    | v => refuseInline "unit" v

def integer {α : Type} (expected : String) (ofInt? : Int → Option α) : Decoder α where
  text _ cs :=
    let convert : Result (Number × List Char) → Result (α × List Char)
      | .error e => .error e
      | .ok (n, rest) =>
        match ofNumber n with
        | .ok a => .ok (a, rest)
        | .error m => mismatch rest m
    match skipBlanks cs with
    | [] => fail [] .endInValue
    | '-' :: rest => convert (number true rest)
    | c :: rest =>
      if Digits.isDigit c then convert (number false (c :: rest)) else refuse expected (c :: rest)
  inline
    | .num n => ofNumber n
    | v => refuseInline expected v
where
  ofNumber : Number → Except Mismatch α
    | .integer i h =>
      match ofInt? i with
      | some a => .ok a
      | none => .error (.wrongValue (.number (.integer i h)) expected)
    | .real x h => .error (.wrongType (.number (.real x h)) expected)

def index : Decoder UInt64 :=
  integer "usize" fun i => if 0 ≤ i ∧ i < 0x10000000000000000 then some (.ofNat i.toNat) else none

def int64 : Decoder Int64 :=
  integer "i64" fun i =>
    if -0x8000000000000000 ≤ i ∧ i < 0x8000000000000000 then some (.ofInt i) else none

def optional {α : Type} (d : Decoder α) : Decoder (Option α) where
  text depth cs :=
    match skipBlanks cs with
    | 'n' :: rest => constant none (word "ull".toList rest)
    | rest => mapValue some (d.text depth rest)
  inline
    | .null => .ok none
    | v => (d.inline v).map some

def itemsWith {α : Type} (d : Decoder α) (depth : Nat) :
    (fuel : Nat) → (first : Bool) → (acc : List α) → List Char → Result (List α × List Char)
  | 0, _, _, cs => fail cs .endInList
  | fuel + 1, first, acc, cs =>
    match nextItem first cs with
    | .error e => .error e
    | .ok none => constant acc.reverse (closeList cs)
    | .ok (some rest) =>
      match d.text depth rest with
      | .error e => .error e
      | .ok (a, rest) => itemsWith d depth fuel false (a :: acc) rest

def list {α : Type} (d : Decoder α) : Decoder (List α) where
  text depth cs :=
    match skipBlanks cs with
    | [] => fail [] .endInValue
    | '[' :: rest =>
      match depth with
      | 0 => failAt ('[' :: rest) .tooDeep
      | depth + 1 => itemsWith d depth (rest.length + 1) true [] rest
    | rest => refuse "a sequence" rest
  inline
    | .arr items => items.mapM d.inline
    | v => refuseInline "a sequence" v

/-- One of several names: a string, or an object whose only member has the name
as its key and the value `null`. -/
def variant {α : Type} (names : List (String × α)) : Decoder α where
  text depth cs :=
    let named (name : String) (rest : List Char) : Result (α × List Char) :=
      match ofName name with
      | .ok a => .ok (a, rest)
      | .error m => mismatch rest m
    match skipBlanks cs with
    | [] => fail [] .endInValue
    | '"' :: rest =>
      match Json.Reader.string rest with
      | .error e => .error e
      | .ok (name, rest) => named name rest
    | '\x7b' :: rest =>
      match depth with
      | 0 => failAt ('\x7b' :: rest) .tooDeep
      | depth + 1 =>
        match key rest with
        | .error e => .error e
        | .ok (name, rest) =>
          match named name rest with
          | .error e => .error e
          | .ok (a, rest) =>
            match colon rest with
            | .error e => .error e
            | .ok rest =>
              match unit.text depth rest with
              | .error e => .error e
              | .ok (_, rest) => constant a (closeVariant rest)
    | rest => failAt rest .expectedValue
  inline
    | .str name => ofName name
    | .obj [(name, v)] =>
      match ofName name with
      | .error m => .error m
      | .ok a => (unit.inline v).map fun _ => a
    | .obj _ => .error (.wrongValue .map "map with a single key")
    | v => refuseInline "string or map" v
where
  ofName (name : String) : Except Mismatch α :=
    match names.lookup name with
    | some a => .ok a
    | none => .error (.unknownVariant name (names.map Prod.fst))
  key (cs : List Char) : Result (String × List Char) :=
    match skipBlanks cs with
    | [] => fail [] .endInObject
    | '"' :: rest => Json.Reader.string rest
    | '\x7d' :: rest => failAt ('\x7d' :: rest) .expectedValue
    | rest => failAt rest .keyNotString
  closeVariant (cs : List Char) : Result (List Char) :=
    match skipBlanks cs with
    | [] => fail [] .endInObject
    | '\x7d' :: rest => .ok rest
    | rest => fail rest .expectedValue

def ofText {α : Type} (d : Decoder α) (text : String) : Except Json.TextFault α :=
  Json.Reader.run d.text text

end Decoder

end Switchyard
