import RunHerald.Json.Token

/-!
# Compact JSON text

`Json.tokens` are the tokens of a value, with the members of its objects in the order in which they
stand. `Json.compact` writes them one after the other, without blanks between them. Only quotes,
backslashes and controls are escaped; every other character is written as it is.
-/

set_option autoImplicit false

namespace RunHerald

namespace Json

mutual

/-- The tokens of a value. -/
def tokens : Json → List Token
  | .null => [.null]
  | .bool b => [.bool b]
  | .num n => [.num (some n)]
  | .str s => [.str (some s)]
  | .arr items => .openBracket :: itemTokens items
  | .obj members => .openBrace :: memberTokens members

/-- The tokens of an array after its bracket. -/
def itemTokens : List Json → List Token
  | [] => [.closeBracket]
  | v :: vs => v.tokens ++ moreItems vs

/-- The tokens of an array after one of its items. -/
def moreItems : List Json → List Token
  | [] => [.closeBracket]
  | v :: vs => .comma :: (v.tokens ++ moreItems vs)

/-- The tokens of an object after its brace. -/
def memberTokens : List (String × Json) → List Token
  | [] => [.closeBrace]
  | (k, v) :: rest => .str (some k) :: .colon :: (v.tokens ++ moreMembers rest)

/-- The tokens of an object after one of its members. -/
def moreMembers : List (String × Json) → List Token
  | [] => [.closeBrace]
  | (k, v) :: rest => .comma :: .str (some k) :: .colon :: (v.tokens ++ moreMembers rest)
end

/-- The last two hexadecimal digits of a number. -/
def hexTwo (n : Nat) : List Char := [n / 0x10 % 16, n % 16].map Nat.digitChar

/-- A character as it is written between quotes. -/
def plainText (c : Char) : List Char :=
  if c = '"' then ['\\', '"']
  else if c = '\\' then ['\\', '\\']
  else if c = '\x08' then ['\\', 'b']
  else if c = '\x0c' then ['\\', 'f']
  else if c = '\n' then ['\\', 'n']
  else if c = '\r' then ['\\', 'r']
  else if c = '\t' then ['\\', 't']
  else if c.toNat < 0x20 then ['\\', 'u', '0', '0'] ++ hexTwo c.toNat
  else [c]

end Json

/-- A token as it is written. One without a value is not written at all. -/
def Token.written : Token → List Char
  | .openBracket => ['[']
  | .closeBracket => [']']
  | .openBrace => ['\x7b']
  | .closeBrace => ['\x7d']
  | .comma => [',']
  | .colon => [':']
  | .null => ['n', 'u', 'l', 'l']
  | .bool true => ['t', 'r', 'u', 'e']
  | .bool false => ['f', 'a', 'l', 's', 'e']
  | .num n => (n.map fun n => n.text.toList).getD []
  | .str s => (s.map fun s => '"' :: (s.toList.flatMap Json.plainText ++ ['"'])).getD []
  | .broken .. => []

/-- The text of a value without blanks. -/
def Json.compact (v : Json) : String := String.ofList (v.tokens.flatMap Token.written)

end RunHerald
