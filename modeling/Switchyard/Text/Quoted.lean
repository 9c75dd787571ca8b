import Switchyard.Unicode.Current

/-! Text in quotes, as messages show it: a character that would not be seen is
written by its code point. -/

namespace Switchyard.Text

def isSeen (c : Char) : Bool := c = ' ' || !Unicode.Current.unseen.contains c

def codePoint (c : Char) : List Char :=
  ['\\', 'u', '\x7b'] ++ Nat.toDigits 16 c.toNat ++ ['\x7d']

def quoteChar (c : Char) : List Char :=
  if c = '"' ∨ c = '\\' then ['\\', c]
  else if c = '\n' then ['\\', 'n']
  else if c = '\r' then ['\\', 'r']
  else if c = '\t' then ['\\', 't']
  else if c = '\x00' then ['\\', '0']
  else if isSeen c then [c]
  else codePoint c

def quoted (s : String) : String :=
  String.ofList ('"' :: (s.toList.flatMap quoteChar ++ ['"']))

end Switchyard.Text
