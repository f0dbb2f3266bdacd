import RunHerald.Decimal.Binary64

/-!
# The fewest digits that read back

`Binary64.shortest` finds the decimal with the fewest digits among those that round to a given
number, and of several with that many digits the nearest. It tries the grids `10 ^ p` from the
coarsest down; on each grid only the two neighbours of the number can lie among the decimals that
round to it.

`DecimalLayout` says where the point goes. Which layout a text uses is decided where the text is
written.
-/

set_option autoImplicit false

namespace RunHerald

/-- A decimal `digits * 10 ^ exponent`. -/
structure Decimal where
  digits : Nat
  exponent : Int
  deriving DecidableEq, Repr

namespace Binary64

/-- The decimals that round to a number, as quotients over one denominator: the number itself,
the two ends, and whether the ends belong. -/
structure Interval where
  value : Nat
  low : Nat
  high : Nat
  den : Nat
  closed : Bool

/-- The decimals that round to a number other than zero. -/
def interval (x : Binary64) : Interval :=
  let m := x.significand
  let below := if m = Nat.pow 2 52 ∧ minExponent < x.exponent then 1 else 2
  let e := x.exponent - 2
  let unit := (ratio 1 e).1
  { value := 4 * m * unit, low := (4 * m - below) * unit, high := (4 * m + 2) * unit,
    den := (ratio 1 e).2, closed := m % 2 = 0 }

/-- Whether `n / d` lies among the decimals that round to the number. -/
def Interval.holds (i : Interval) (n d : Nat) : Bool :=
  let a := n * i.den
  if i.closed then i.low * d ≤ a ∧ a ≤ i.high * d else i.low * d < a ∧ a < i.high * d

/-- The multiple of `10 ^ p` nearest to the number among its two neighbours that round to it; a tie
goes to the even multiple. -/
def Interval.onGrid (i : Interval) (p : Int) : Option Nat :=
  let num := if 0 ≤ p then Nat.pow 10 p.toNat else 1
  let den := if 0 ≤ p then 1 else Nat.pow 10 (-p).toNat
  let k := i.value * den / (i.den * num)
  let below := k ≠ 0 ∧ i.holds (k * num) den
  let above := i.holds ((k + 1) * num) den
  let r := i.value * den - k * (i.den * num)
  let upper := i.den * num < 2 * r ∨ (i.den * num = 2 * r ∧ k % 2 = 1)
  if below ∧ above then some (if upper then k + 1 else k)
  else if below then some k
  else if above then some (k + 1)
  else none

/-- The least power of ten above `num / den`, searched for upwards. -/
def magnitudeFrom (num den : Nat) (p : Int) : Nat → Int
  | 0 => p
  | steps + 1 =>
    let under :=
      if 0 ≤ p then num < den * Nat.pow 10 p.toNat else num * Nat.pow 10 (-p).toNat < den
    if under then p else magnitudeFrom num den (p + 1) steps

/-- The exponent of the least power of ten above a positive quotient. -/
def magnitude (num den : Nat) : Int :=
  let bits : Int := (num.log2 : Int) - (den.log2 : Int) - 1
  magnitudeFrom num den (bits * 30103 / 100000 - 1) 4

/-- The first grid, from the coarsest down, on which some decimal rounds to the number. -/
def Interval.search (i : Interval) (p : Int) : Nat → Decimal
  | 0 => ⟨0, 0⟩
  | grids + 1 =>
    match i.onGrid p with
    | some k => ⟨k, p⟩
    | none => i.search (p - 1) grids

/-- The decimal with the fewest digits that rounds to the number, its sign left out. Seventeen
digits always suffice. -/
def shortest (x : Binary64) : Decimal :=
  if x.isZero then ⟨0, 0⟩
  else
    let i := x.interval
    i.search (magnitude i.value i.den) 18

end Binary64

/-- Where a decimal is written with its point in place: the point may stand this many places after
the first digit, or this many zeros before it. Elsewhere an exponent is written, with a sign or with
a minus sign alone. -/
structure DecimalLayout where
  maxPlaces : Int
  minPlaces : Int
  signedExponent : Bool

/-- Writes a finite number by its shortest decimal. Whole numbers keep one zero after the point. -/
def DecimalLayout.write (layout : DecimalLayout) (x : Binary64) : String :=
  let sign := if x.negative then "-" else ""
  if x.isZero then sign ++ "0.0"
  else
    let d := x.shortest
    let ds := (toString d.digits).toList
    let n : Int := ds.length
    let point := n + d.exponent
    let zeros (k : Int) := List.replicate k.toNat '0'
    let body :=
      if 0 ≤ d.exponent ∧ point ≤ layout.maxPlaces then ds ++ zeros d.exponent ++ ['.', '0']
      else if 0 < point ∧ point ≤ layout.maxPlaces then
        ds.take point.toNat ++ ['.'] ++ ds.drop point.toNat
      else if layout.minPlaces < point ∧ point ≤ 0 then ['0', '.'] ++ zeros (-point) ++ ds
      else
        let tail := if ds.length = 1 then [] else '.' :: ds.drop 1
        let plus := if layout.signedExponent ∧ 0 < point then ['+'] else []
        ds.take 1 ++ tail ++ ['e'] ++ plus ++ (toString (point - 1)).toList
    sign ++ String.ofList body

end RunHerald
