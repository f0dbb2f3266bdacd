/-!
# Double-precision numbers, exactly

A finite double-precision number is a sign, a significand below `2 ^ 53` and a power of two. All
arithmetic here is on natural numbers, so every operation is a definition that can be computed and
reasoned about: a result is the exact quotient rounded once, to the nearest number, a tie going to
the even significand.

* `round` rounds a quotient; it has no answer when the quotient is too large.
* `ofDecimal` reads a decimal: the digits become one number, which is then multiplied or divided by
  a power of ten, so there are two roundings.
-/

set_option autoImplicit false

namespace RunHerald

/-- The number `± significand * 2 ^ exponent`. -/
structure Binary64 where
  negative : Bool
  significand : Nat
  exponent : Int
  deriving DecidableEq, Repr, Inhabited

namespace Binary64

/-- Zero with a sign. -/
def zero (negative : Bool) : Binary64 := ⟨negative, 0, 0⟩

/-- Whether the number is zero, of either sign. -/
def isZero (x : Binary64) : Bool := x.significand == 0

/-- The least exponent of a number. -/
def minExponent : Int := -1074

/-- The greatest exponent of a number. -/
def maxExponent : Int := 971

/-- `m * 2 ^ e` as a quotient of natural numbers. -/
def ratio (m : Nat) (e : Int) : Nat × Nat :=
  if 0 ≤ e then (m * Nat.pow 2 e.toNat, 1) else (m, Nat.pow 2 (-e).toNat)

/-- The quotient rounded to the nearest natural number, a tie going to the even one. -/
def divNearestEven (num den : Nat) : Nat :=
  let q := num / den
  let r := num % den
  if den < 2 * r ∨ (2 * r = den ∧ q % 2 = 1) then q + 1 else q

/-- The exponent with which `num / den` keeps 53 bits, or the least exponent if that is greater. -/
def exponentFor (num den : Nat) : Int :=
  let e : Int := (num.log2 : Int) - (den.log2 : Int) - 52
  let (n, d) := ratio den e
  let e := if num * d < n * Nat.pow 2 52 then e - 1 else e
  max e minExponent

/-- The number nearest to `num / den`; none if its exponent would be too great. -/
def round (negative : Bool) (num den : Nat) : Option Binary64 :=
  if num = 0 then some (zero negative)
  else
    let e := exponentFor num den
    let (n, d) := ratio den e
    let m := divNearestEven (num * d) n
    if m = 0 then some (zero negative)
    else
      let (m, e) := if m = Nat.pow 2 53 then (Nat.pow 2 52, e + 1) else (m, e)
      if maxExponent < e then none else some ⟨negative, m, e⟩

/-- The product, rounded once. -/
def mul (x y : Binary64) : Option Binary64 :=
  let (n, d) := ratio (x.significand * y.significand) (x.exponent + y.exponent)
  round (x.negative != y.negative) n d

/-- The quotient by a number other than zero, rounded once. -/
def div (x y : Binary64) : Option Binary64 :=
  let (n, d) := ratio x.significand (x.exponent - y.exponent)
  round (x.negative != y.negative) n (d * y.significand)

/-- The greatest power of ten that is a number of this kind has this exponent. -/
def maxPowerOfTen : Nat := 308

/-- The number nearest to a power of ten. -/
def powerOfTen (k : Nat) : Binary64 := (round false (Nat.pow 10 k) 1).getD (zero false)

/-- Divides by `10 ^ 308` until the power of ten that is left can be divided by, or nothing is
left to divide. -/
def scaleDown (x : Binary64) (k : Nat) : Option Binary64 :=
  if _h : k ≤ maxPowerOfTen then x.div (powerOfTen k)
  else if x.isZero then some x
  else
    match x.div (powerOfTen maxPowerOfTen) with
    | none => none
    | some y => scaleDown y (k - maxPowerOfTen)
termination_by k
decreasing_by simp only [maxPowerOfTen] at *; omega

/-- The number written `digits * 10 ^ exponent`; none if it is too large. -/
def ofDecimal (negative : Bool) (digits : Nat) (exponent : Int) : Option Binary64 := do
  let x ← round negative digits 1
  if 0 ≤ exponent then
    if exponent.toNat ≤ maxPowerOfTen then x.mul (powerOfTen exponent.toNat)
    else if x.isZero then some x
    else none
  else scaleDown x (-exponent).toNat

end Binary64

end RunHerald
