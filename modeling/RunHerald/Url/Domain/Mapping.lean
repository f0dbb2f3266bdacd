import RunHerald.Text.Ranges
import RunHerald.Url.Domain.Expanded
import RunHerald.Url.Domain.Folded
import RunHerald.Url.Domain.Refused

/-!
# What characters stand for in a domain

Domains do not tell capital letters from small ones, nor the special shapes of a character from its
plain one. `meaning?` says what a character stands for, in the characters of the plain form; a few
stand for nothing, and some are refused. A character whose plain form is its canonical one stands
for itself here, so the result has still to be composed.
-/

set_option autoImplicit false

namespace RunHerald.Domain

/-- Whether a code point is the first, or every other after it, of some range. -/
def alternates (n : Nat) : Bool := alternating.any fun p => p.1 ≤ n && n ≤ p.2 && (n - p.1) % 2 == 0

/-- The one code point that a code point stands for, if there is one. -/
def foldedTo? (n : Nat) : Option Nat :=
  ((rangeOf? n shifted).map fun p => p.2 + (n - p.1))
    <|> (if alternates n then some (n + 1) else none)
    <|> (rangeOf? n merged).map Prod.snd
    <|> inBlocks? n folded

/-- What a character stands for; `none` if a domain may not hold it. -/
def meaning? (c : Char) : Option (List Char) :=
  let n := c.toNat
  if inRanges n refused then none
  else if inRanges n vanishing then some []
  else
    match foldedTo? n with
    | some m => some [Char.ofNat m]
    | none =>
      match inBlocks? n expanded with
      | some ms => some (ms.map Char.ofNat)
      | none => some [c]

end RunHerald.Domain
