import Switchyard.Json.Fault

/-! Printing of values, compact or indented. -/

namespace Switchyard.Json

def lowerHex (n : Nat) : Char := Nat.digitChar (n % 16)

def escape (c : Char) : List Char :=
  if c = '"' then ['\\', '"']
  else if c = '\\' then ['\\', '\\']
  else if c = '\x08' then ['\\', 'b']
  else if c = '\x0c' then ['\\', 'f']
  else if c = '\n' then ['\\', 'n']
  else if c = '\r' then ['\\', 'r']
  else if c = '\t' then ['\\', 't']
  else if c.toNat < 0x20 then ['\\', 'u', '0', '0', lowerHex (c.toNat / 16), lowerHex c.toNat]
  else [c]

def writeString (s : String) : List Char := '"' :: (s.toList.flatMap escape ++ ['"'])

mutual

def write : Json → List Char
  | .null => "null".toList
  | .bool b => if b then "true".toList else "false".toList
  | .num n => n.write
  | .str s => writeString s
  | .arr items => '[' :: (writeItems items ++ [']'])
  | .obj members => '\x7b' :: (writeMembers members ++ ['\x7d'])
termination_by structural v => v

def writeItems : List Json → List Char
  | [] => []
  | v :: vs => write v ++ (if vs.isEmpty then [] else ',' :: writeItems vs)
termination_by structural vs => vs

def writeMembers : List (String × Json) → List Char
  | [] => []
  | (k, v) :: ms =>
    writeString k ++ ':' :: (write v ++ (if ms.isEmpty then [] else ',' :: writeMembers ms))
termination_by structural ms => ms

end

def breakLine (level : Nat) : List Char := '\n' :: List.replicate (2 * level) ' '

mutual

def writeIndented (level : Nat) : Json → List Char
  | .arr [] => "[]".toList
  | .arr (v :: vs) => '[' :: (writeIndentedItems (level + 1) (v :: vs) ++ breakLine level ++ [']'])
  | .obj [] => "\x7b\x7d".toList
  | .obj (m :: ms) =>
    '\x7b' :: (writeIndentedMembers (level + 1) (m :: ms) ++ breakLine level ++ ['\x7d'])
  | v => write v
termination_by structural v => v

def writeIndentedItems (level : Nat) : List Json → List Char
  | [] => []
  | v :: vs =>
    breakLine level ++ writeIndented level v ++
      (if vs.isEmpty then [] else ',' :: writeIndentedItems level vs)
termination_by structural vs => vs

def writeIndentedMembers (level : Nat) : List (String × Json) → List Char
  | [] => []
  | (k, v) :: ms =>
    breakLine level ++ writeString k ++ ": ".toList ++ writeIndented level v ++
      (if ms.isEmpty then [] else ',' :: writeIndentedMembers level ms)
termination_by structural ms => ms

end

def print (v : Json) : String := String.ofList (write v)

def printIndented (v : Json) : String := String.ofList (writeIndented 0 v)

end Switchyard.Json
