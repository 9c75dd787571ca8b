import Switchyard.Decoding.Basic

/-! Records: objects with known fields, also written as arrays of their fields
in order. Fields may come in any order, unknown ones are skipped, and trailing
fields of an array may be missing if they need not be there at all. -/

namespace Switchyard

open Json.Reader

structure Field (σ : Type) where
  key : String
  update : Decoder (σ → σ)

def Field.of {σ β : Type} (key : String) (d : Decoder β) (set : β → σ → σ) : Field σ where
  key := key
  update :=
    { text := fun depth cs => mapValue set (d.text depth cs)
      inline := fun v => (d.inline v).map set }

/-- A kind of record. A draft without some field that has to be there does not
finish, and the key of the first such field is reported. -/
structure Shape (σ α : Type) where
  name : String
  blank : σ
  fields : List (Field σ)
  finish : σ → Except String α

namespace Shape

variable {σ α : Type} (shape : Shape σ α)

def field? (key : String) : Option (Field σ) := shape.fields.find? (·.key = key)

def expected : String := "struct " ++ shape.name

def tooShort (key : String) : Mismatch :=
  .wrongLength (shape.fields.findIdx (·.key = key))
    (shape.expected ++ " with " ++ toString shape.fields.length ++ " elements")

/-- The place where a repeated key is reported: past the brace, if that comes
next. -/
def afterKey (cs : List Char) : List Char :=
  match skipBlanks cs with
  | '\x7d' :: rest => rest
  | rest => rest

def membersWith (depth : Nat) :
    (fuel : Nat) → (first : Bool) → (seen : List String) → (draft : σ) → List Char →
    Result (σ × List Char)
  | 0, _, _, _, cs => fail cs .endInObject
  | fuel + 1, first, seen, draft, cs =>
    match nextKey first cs with
    | .error e => .error e
    | .ok none => .ok (draft, cs)
    | .ok (some rest) =>
      match Json.Reader.string rest with
      | .error e => .error e
      | .ok (key, rest) =>
        match shape.field? key with
        | none =>
          match colon rest with
          | .error e => .error e
          | .ok rest =>
            match skip rest with
            | .error e => .error e
            | .ok rest => membersWith depth fuel false seen draft rest
        | some field =>
          if key ∈ seen then mismatch (afterKey rest) (.duplicateField key)
          else match colon rest with
            | .error e => .error e
            | .ok rest =>
              match field.update.text depth rest with
              | .error e => .error e
              | .ok (update, rest) => membersWith depth fuel false (key :: seen) (update draft) rest

def itemsWith (depth : Nat) :
    List (Field σ) → (first : Bool) → (draft : σ) → List Char → Result (σ × List Char)
  | [], _, draft, cs => .ok (draft, cs)
  | field :: fields, first, draft, cs =>
    match nextItem first cs with
    | .error e => .error e
    | .ok none => .ok (draft, cs)
    | .ok (some rest) =>
      match field.update.text depth rest with
      | .error e => .error e
      | .ok (update, rest) => itemsWith depth fields false (update draft) rest

def finishText (missing : String → Mismatch) (draft : σ) (closed : Result (List Char)) :
    Result (α × List Char) :=
  match closed with
  | .error e => .error e
  | .ok rest =>
    match shape.finish draft with
    | .error key => mismatch rest (missing key)
    | .ok a => .ok (a, rest)

def text (depth : Nat) (cs : List Char) : Result (α × List Char) :=
  match skipBlanks cs with
  | [] => fail [] .endInValue
  | '[' :: rest =>
    match depth with
    | 0 => failAt ('[' :: rest) .tooDeep
    | depth + 1 =>
      match itemsWith depth shape.fields true shape.blank rest with
      | .error e => .error e
      | .ok (draft, rest) => shape.finishText shape.tooShort draft (closeList rest)
  | '\x7b' :: rest =>
    match depth with
    | 0 => failAt ('\x7b' :: rest) .tooDeep
    | depth + 1 =>
      match shape.membersWith depth (rest.length + 1) true [] shape.blank rest with
      | .error e => .error e
      | .ok (draft, rest) => shape.finishText .missingField draft (closeObject rest)
  | rest => Decoder.refuse shape.expected rest

def inlineMembers : (draft : σ) → List (String × Json) → Except Mismatch σ
  | draft, [] => .ok draft
  | draft, (key, v) :: rest =>
    match shape.field? key with
    | none => inlineMembers draft rest
    | some field =>
      match field.update.inline v with
      | .error m => .error m
      | .ok update => inlineMembers (update draft) rest

def inlineItems : List (Field σ) → (draft : σ) → List Json → Except Mismatch σ
  | field :: fields, draft, v :: rest =>
    match field.update.inline v with
    | .error m => .error m
    | .ok update => inlineItems fields (update draft) rest
  | _, draft, _ => .ok draft

def inline (v : Json) : Except Mismatch α :=
  match v with
  | .arr items =>
    match inlineItems shape.fields shape.blank items with
    | .error m => .error m
    | .ok draft =>
      match shape.finish draft with
      | .error key => .error (shape.tooShort key)
      | .ok a =>
        if shape.fields.length < items.length then
          .error (.wrongLength items.length "fewer elements in array")
        else .ok a
  | .obj members =>
    match shape.inlineMembers shape.blank members with
    | .error m => .error m
    | .ok draft =>
      match shape.finish draft with
      | .error key => .error (.missingField key)
      | .ok a => .ok a
  | v => Decoder.refuseInline shape.expected v

def decoder : Decoder α where
  text := shape.text
  inline := shape.inline

end Shape

end Switchyard
