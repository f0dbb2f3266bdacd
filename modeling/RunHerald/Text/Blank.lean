/-!
# Blank characters

The characters with the property `White_Space`: the control characters from tab to carriage return,
the space, the next-line control, and the spaces and line separators outside the first block.

`trimLeft` drops those before the first other character of a text.
-/

set_option autoImplicit false

namespace RunHerald

/-- Whether a character is blank. -/
def isBlank (c : Char) : Bool :=
  let n := c.toNat
  (9 ≤ n && n ≤ 13) || n == 0x20 || n == 0x85 || n == 0xA0 || n == 0x1680
    || (0x2000 ≤ n && n ≤ 0x200A) || n == 0x2028 || n == 0x2029 || n == 0x202F || n == 0x205F
    || n == 0x3000

/-- Drops the blanks before the first other character. -/
def trimLeft (cs : List Char) : List Char := cs.dropWhile isBlank

/-- Whether a text holds nothing but blanks. -/
def isAllBlank (s : String) : Bool := s.toList.all isBlank

end RunHerald
