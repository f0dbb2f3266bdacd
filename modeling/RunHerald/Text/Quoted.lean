import RunHerald.Text.Visible

/-!
# Quoted text

Descriptions of values put texts in double quotes. The quote, the backslash and four controls have
two-character escapes; every other character that is hidden or joined to the one before it is
written by its number in braces.
-/

set_option autoImplicit false

namespace RunHerald.Quoted

/-- The written form of one character. -/
def escape (c : Char) : List Char :=
  if c = '"' then ['\\', '"']
  else if c = '\\' then ['\\', '\\']
  else if c = '\t' then ['\\', 't']
  else if c = '\n' then ['\\', 'n']
  else if c = '\r' then ['\\', 'r']
  else if c.toNat = 0 then ['\\', '0']
  else if isVisible c then [c]
  else ['\\', 'u', '\x7b'] ++ Nat.toDigits 16 c.toNat ++ ['\x7d']

/-- A text in quotes. -/
def write (s : String) : String := String.ofList ('"' :: s.toList.flatMap escape ++ ['"'])

/-- Texts in quotes between braces, as a set is described. -/
def writeSet (items : List String) : String :=
  "\x7b" ++ ", ".intercalate (items.map write) ++ "\x7d"

/-- Pairs of texts in quotes between braces, as a dictionary is described. -/
def writePairs (items : List (String × String)) : String :=
  "\x7b" ++ ", ".intercalate (items.map fun p => write p.1 ++ ": " ++ write p.2) ++ "\x7d"

end RunHerald.Quoted
