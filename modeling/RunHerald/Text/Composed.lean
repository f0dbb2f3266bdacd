import RunHerald.Text.CombiningClass
import RunHerald.Text.Decomposition
import RunHerald.Text.Ranges

/-!
# Composed text

Several texts can be canonically the same: a letter with an accent, or the letter and the accent
after it. `composed` gives the one form of all of them (Normalization Form C) in three steps.

* Every character is taken apart as far as possible.
* Between two starters the marks are sorted by their class; marks of one class keep their order.
* A character is joined to the starter before it, if nothing between them keeps them apart.
-/

set_option autoImplicit false

namespace RunHerald

/-- The letters of a Hangul syllable: the first consonant, the vowel, and perhaps a last consonant.
The syllables lie in the order of their letters, 28 for each first consonant and vowel. -/
def hangulLetters? (n : Nat) : Option (List Nat) :=
  if 0xAC00 ≤ n ∧ n < 0xAC00 + 19 * 21 * 28 then
    let place := n - 0xAC00
    let start := [0x1100 + place / 28 / 21, 0x1161 + place / 28 % 21]
    some (if place % 28 = 0 then start else start ++ [0x11A7 + place % 28])
  else none

/-- What a code point is the same as, one step apart. -/
def parts? (n : Nat) : Option (List Nat) :=
  hangulLetters? n
    <|> (inBlocks? n twins).map (fun m => [m])
    <|> (inBlocks? n composites).map fun p => [p.1, p.2]

/-- Takes a code point apart, at most `depth` times in a row. -/
def takeApart : Nat → Nat → List Nat
  | 0, n => [n]
  | depth + 1, n =>
    match parts? n with
    | none => [n]
    | some ms => ms.flatMap (takeApart depth)

/-- The characters that a character consists of; in the tables no chain is longer than three. -/
def decomposed (c : Char) : List Char :=
  if c.toNat < 0xC0 then [c] else (takeApart 4 c.toNat).map Char.ofNat

/-- Puts a character at the end of a text that is held in reverse: a mark goes before all marks of a
greater class at the end. -/
def settle (c : Char) : List Char → List Char
  | [] => [c]
  | d :: ds =>
    if combiningClass c ≠ 0 ∧ combiningClass c < combiningClass d then d :: settle c ds
    else c :: d :: ds

/-- A text with the marks after each starter sorted by their class. -/
def canonicalOrder (cs : List Char) : List Char :=
  (cs.foldl (fun settled c => settle c settled) []).reverse

/-- The Hangul syllable of two letters, or of a syllable of two letters and a last consonant. -/
def hangulJoined? (a b : Nat) : Option Nat :=
  if 0x1100 ≤ a ∧ a < 0x1100 + 19 ∧ 0x1161 ≤ b ∧ b < 0x1161 + 21 then
    some (0xAC00 + ((a - 0x1100) * 21 + (b - 0x1161)) * 28)
  else if 0xAC00 ≤ a ∧ a < 0xAC00 + 19 * 21 * 28 ∧ (a - 0xAC00) % 28 = 0
      ∧ 0x11A7 < b ∧ b < 0x11A7 + 28 then
    some (a + (b - 0x11A7))
  else none

/-- The composite of two code points in some blocks. -/
def compositeIn? (pair : Nat × Nat) : List (Nat × List (Nat × Nat)) → Option Nat
  | [] => none
  | (lo, pairs) :: rest =>
    match pairs.idxOf? pair with
    | some i => if lo + i ∈ unjoined then compositeIn? pair rest else some (lo + i)
    | none => compositeIn? pair rest

/-- The character that two characters are put together to. -/
def joined? (a b : Char) : Option Char :=
  ((hangulJoined? a.toNat b.toNat) <|> compositeIn? (a.toNat, b.toNat) composites).map Char.ofNat

/-- A text that is being put together: what comes before the last starter, in reverse, the last
starter, and the marks after it, in reverse. -/
structure Composition where
  done : List Char
  starter : Option Char
  marks : List Char

/-- The text so far, in reverse. -/
def Composition.reversed (s : Composition) : List Char := s.marks ++ s.starter.toList ++ s.done

/-- Takes a character that is not joined. -/
def Composition.append (s : Composition) (c : Char) : Composition :=
  if isStarter c then ⟨s.reversed, some c, []⟩ else { s with marks := c :: s.marks }

/-- Takes the next character. The last mark keeps it apart from the starter if its class is not
below that of the character. -/
def Composition.push (s : Composition) (c : Char) : Composition :=
  match s.starter with
  | none => s.append c
  | some a =>
    if s.marks.head?.any fun m => combiningClass c ≤ combiningClass m then s.append c
    else
      match joined? a c with
      | some b => { s with starter := some b }
      | none => s.append c

/-- The composed form of a text. -/
def composed (cs : List Char) : List Char :=
  let s := (canonicalOrder (cs.flatMap decomposed)).foldl Composition.push ⟨[], none, []⟩
  s.reversed.reverse

end RunHerald
