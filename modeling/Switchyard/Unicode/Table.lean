import Switchyard.Unicode.CharSet

/-! Written tables of characters: hexadecimal code points and ranges between
blanks. `100-136/2` stands for every second code point of a range. -/

namespace Switchyard.Unicode

def hex (cs : List Char) : Nat :=
  cs.foldl (fun n c => 16 * n + (Numeral.digit? 16 c).getD 0) 0

def entryRanges (cs : List Char) : List (Nat × Nat) :=
  let code := cs.takeWhile (· != '/')
  let first := hex (code.takeWhile (· != '-'))
  match code.dropWhile (· != '-') with
  | '-' :: last =>
    match cs.dropWhile (· != '/') with
    | '/' :: stride =>
      let stride := hex stride
      (List.range ((hex last - first) / stride + 1)).map fun i =>
        (first + stride * i, first + stride * i)
    | _ => [(first, hex last)]
  | _ => [(first, first)]

def entries (table : List String) : List (List Char) :=
  table.flatMap fun line => (line.toList.splitOn ' ').filter (!·.isEmpty)

structure Property where
  names : List String
  table : List String

def Property.set (p : Property) : CharSet := .ofRanges ((entries p.table).flatMap entryRanges)

def find? (properties : List Property) (name : String) : Option CharSet :=
  (properties.find? fun p => p.names.contains name).map Property.set

end Switchyard.Unicode
