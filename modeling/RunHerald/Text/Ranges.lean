/-!
# Tables of code points

A property of characters is written down as a table in ascending order: of ranges, of ranges with a
value each, or of blocks that give consecutive code points a value each. A search ends at the first
entry that begins beyond the code point.
-/

set_option autoImplicit false

namespace RunHerald

/-- Whether a code point lies in one of some ascending ranges. -/
def inRanges (n : Nat) : List (Nat × Nat) → Bool
  | [] => false
  | (lo, hi) :: rest => if n < lo then false else n ≤ hi || inRanges n rest

/-- The first end and the value of the range that holds a code point. -/
def rangeOf? {α : Type} (n : Nat) : List (Nat × Nat × α) → Option (Nat × α)
  | [] => none
  | (lo, hi, a) :: rest =>
    if n < lo then none else if n ≤ hi then some (lo, a) else rangeOf? n rest

/-- The value of a code point in one of some ascending blocks. -/
def inBlocks? {α : Type} (n : Nat) : List (Nat × List α) → Option α
  | [] => none
  | (lo, values) :: rest =>
    if n < lo then none
    else if n < lo + values.length then values[n - lo]?
    else inBlocks? n rest

end RunHerald
