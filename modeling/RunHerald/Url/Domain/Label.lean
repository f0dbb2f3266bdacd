import RunHerald.Text.CombiningClass
import RunHerald.Text.Composed
import RunHerald.Text.Direction
import RunHerald.Text.Joining
import RunHerald.Text.Mark
import RunHerald.Url.Domain.Mapping
import RunHerald.Url.Punycode

/-!
# Labels of a domain

A label is a part of a domain between its dots. It means some characters, and it is spelled in
ASCII: a label with other characters is spelled `xn--` and its Punycode, and a label that begins so
means what the Punycode says.

A label must be plain, which `Label.read?` checks: it begins with no mark, and its joiners stand
where they make a difference. If some label of a domain has characters from right to left, every
label of it must also keep one direction (`Label.isOneWay`), or else the labels could not be told
apart on the screen.
-/

set_option autoImplicit false

namespace RunHerald.Domain

/-- A label: the characters that it means, and how it is spelled in ASCII. -/
structure Label where
  meant : List Char
  spelled : List Char
  deriving DecidableEq, Repr

/-- Whether a character is in ASCII. -/
def isAscii (c : Char) : Bool := c.toNat < 0x80

/-- Whether a character is in ASCII and may not stand in a domain. -/
def isForbidden (c : Char) : Bool :=
  c.toNat ≤ 0x20 || c.toNat = 0x7F
    || c ∈ ['%', '#', '/', ':', '<', '>', '?', '@', '[', '\\', ']', '^', '|']

namespace Label

/-- The beginning of a label that is spelled in Punycode. -/
def sign : List Char := ['x', 'n', '-', '-']

/-- The greatest number of characters that a label which is spelled in Punycode may mean. -/
def meantLimit : Nat := 1000

/-- The greatest number of characters of the Punycode of a label. -/
def spelledLimit : Nat := 2000

/-- The joiner that asks for the letters around it to be joined. -/
def joiner : Char := '\u200D'

/-- The joiner that asks for the letters around it to be kept apart. -/
def nonJoiner : Char := '\u200C'

/-- Whether a joiner has a say between the characters before it, in reverse, and after it. Both
kinds do after a mark that takes the vowel off, the one that keeps apart also between letters that
would be joined. -/
def isJoinerInPlace (c : Char) (before after : List Char) : Bool :=
  before.head?.any (fun b => combiningClass b == viramaClass)
    || (c == nonJoiner
      && (before.dropWhile isTransparent).head?.any joinsNext
      && (after.dropWhile isTransparent).head?.any joinsPrevious)

/-- Whether all joiners have a say; the characters before the ones left are given in reverse. -/
def areJoinersInPlace (before : List Char) : List Char → Bool
  | [] => true
  | c :: after =>
    ((c ≠ joiner && c ≠ nonJoiner) || isJoinerInPlace c before after)
      && areJoinersInPlace (c :: before) after

/-- Whether a label means nothing that looks like something else. -/
def isPlain (cs : List Char) : Bool :=
  !(cs.head?.any isMark) && areJoinersInPlace [] cs

/-- Whether characters are a meaning in its usual form: each stands for itself, they are composed,
and a label may hold them. -/
def isUsual (cs : List Char) : Bool :=
  cs.all (fun c => meaning? c == some [c] && !isForbidden c && c ≠ '.') && composed cs == cs

/-- What Punycode after the sign means. -/
def meantBy? (cs : List Char) : Option (List Char) :=
  if cs = [] ∨ cs.getLast? = some '-' ∨ spelledLimit < cs.length ∨ ¬cs.all isAscii then none
  else (Punycode.decode cs).filter fun meant => meant.length ≤ meantLimit && isUsual meant

/-- The label of some characters that have been mapped and composed. -/
def read? (cs : List Char) : Option Label :=
  if cs.take 4 = sign then
    ((meantBy? (cs.drop 4)).filter isPlain).map fun meant => ⟨meant, cs⟩
  else if !isPlain cs then none
  else if cs.all isAscii then some ⟨cs, cs⟩
  else if meantLimit < cs.length then none
  else some ⟨cs, sign ++ Punycode.encode cs⟩

/-- Whether a label has a character that runs, or makes its digits run, from right to left. -/
def hasRightToLeft (l : Label) : Bool :=
  l.meant.any fun c => direction c = .right ∨ direction c = .arabic

/-- Whether directions fit together: the first one is that of a letter, the last one, marks left
aside, is that letter's or a digit's, and between them stands nothing against the first. Digits of
both kinds do not mix. -/
def isOneWayBy : List Direction → Bool
  | [] => true
  | first :: rest =>
    let last := (rest.reverse.dropWhile (· = .mark)).head?
    match first with
    | .left =>
      rest.all (fun d => d ≠ .right ∧ d ≠ .arabic) && last.all (fun d => d = .left ∨ d = .european)
    | .right =>
      rest.all (· ≠ .left) && last.all (· ≠ .neutral)
        && !(rest.contains .european && rest.contains .arabic)
    | _ => false

/-- Whether a label keeps one direction. -/
def isOneWay (l : Label) : Bool := isOneWayBy (l.meant.map direction)

end Label

end RunHerald.Domain
