import Switchyard.Digits
import Switchyard.Log.Event
import Switchyard.Text.Blank
import Switchyard.Unicode.Current

/-! Log filters: directives such as `info` or `target=debug`, between commas. Of
the directives for an event that with the longest target decides. -/

namespace Switchyard.Log

/-- Lets through the events of some targets from a level on, or none of them.
One that is about spans says nothing about events. -/
structure Directive where
  target : Option String
  least : Option Level
  spans : Bool
deriving DecidableEq, Repr

namespace Directive

def number? (cs : List Char) : Option Nat :=
  let ds := match cs with
    | '+' :: ds => ds
    | ds => ds
  if !ds.isEmpty && ds.all Digits.isDigit then some (Digits.value ds) else none

def level? (cs : List Char) : Option (Option Level) :=
  match number? cs with
  | some 0 => some none
  | some 1 => some (some .error)
  | some 2 => some (some .warn)
  | some 3 => some (some .info)
  | some 4 => some (some .debug)
  | some 5 => some (some .trace)
  | _ =>
    match String.ofList (cs.map Char.toLower) with
    | "error" => some (some .error)
    | "warn" => some (some .warn)
    | "info" => some (some .info)
    | "debug" => some (some .debug)
    | "trace" => some (some .trace)
    | "off" => some none
    | _ => none

def levelOrAll? (cs : List Char) : Option (Option Level) :=
  if cs.isEmpty then some (some .trace) else level? cs

def isStart (c : Char) : Bool :=
  c == '-' || c == ':' || c == '_' || Unicode.Current.letters.contains c ||
    Unicode.Current.numbers.contains c

def afterTarget (target : Option String) (cs : List Char) : Option Directive :=
  match cs with
  | '=' :: level => (levelOrAll? level).map fun least => ⟨target, least, false⟩
  | '[' :: rest =>
    match rest.dropWhile (· != ']') with
    | [']'] => some ⟨target, some .trace, true⟩
    | ']' :: '=' :: level => (levelOrAll? level).map fun least => ⟨target, least, true⟩
    | _ => none
  | _ => none

/-- A directive without its blanks. A word alone is a level if it can be one. -/
def parse? (cs : List Char) : Option Directive :=
  let word := cs.takeWhile fun c => c != '=' && c != '['
  match word, cs.dropWhile fun c => c != '=' && c != '[' with
  | [], '[' :: rest => afterTarget none ('[' :: rest)
  | [], _ => none
  | c :: more, rest =>
    if !isStart c then none
    else if rest.isEmpty then
      match level? (c :: more) with
      | some least => some ⟨none, least, false⟩
      | none => some ⟨some (String.ofList (c :: more)), some .trace, false⟩
    else afterTarget (some (String.ofList (c :: more))) rest

def covers (d : Directive) (target : String) : Bool :=
  !d.spans && d.target.all fun t => t.toList.isPrefixOf target.toList

def length (d : Directive) : Nat := (d.target.map String.utf8ByteSize).getD 0

def decides (d e : Directive) : Bool :=
  match e.target, d.target with
  | none, _ => true
  | some _, none => false
  | some _, some _ => e.length ≤ d.length

end Directive

structure Filter where
  directives : List Directive
deriving DecidableEq, Repr

namespace Filter

def atLeast (level : Level) : Filter := ⟨[⟨none, some level, false⟩]⟩

def off : Filter := ⟨[⟨none, none, false⟩]⟩

/-- Reads a filter. Without any directive only errors are let through. -/
def parse? (text : String) : Option Filter :=
  let parts := (text.toList.splitOn ',').filter (!·.isEmpty)
  if parts.isEmpty then some (atLeast .error)
  else (parts.mapM fun part => Directive.parse? (Text.trimWhere Text.isBlank part)).map Filter.mk

def ofSetting (setting : Option String) : Filter := (setting.bind parse?).getD (atLeast .info)

def deciding? (f : Filter) (target : String) : Option Directive :=
  (f.directives.filter (·.covers target)).foldl
    (fun best d => match best with
      | none => some d
      | some e => if d.decides e then some d else some e) none

def enables (f : Filter) (target : String) (level : Level) : Bool :=
  match f.deciding? target with
  | some ⟨_, some least, _⟩ => least.weight ≤ level.weight
  | _ => false

def admits (f : Filter) (e : Event) : Bool := f.enables e.target e.level

end Filter

end Switchyard.Log
