/-!
# Punycode

The part of a domain label after `xn--` holds the ASCII characters of the label, a hyphen if there
are any, and then the other characters in ascending order. An integer in digits of base 36 says for
each of them how many places in the text, and after all places how many code points, lie between it
and the one before. `Punycode.encode` writes a label so, `Punycode.decode` reads it.
-/

set_option autoImplicit false

namespace RunHerald.Punycode

/-- The value of a digit in base 36. -/
def digit? (c : Char) : Option Nat :=
  if 'a' ≤ c ∧ c ≤ 'z' then some (c.toNat - 'a'.toNat)
  else if c.isDigit then some (c.toNat - '0'.toNat + 26)
  else none

/-- The digit of a value below 36. -/
def digit (d : Nat) : Char :=
  if d < 26 then Char.ofNat ('a'.toNat + d) else Char.ofNat ('0'.toNat + (d - 26))

/-- Halves the step until it is small: the number of halvings, each worth 36, and the step left. -/
def shrink (k : Nat) : Nat → Nat → Nat × Nat
  | 0, step => (k, step)
  | rounds + 1, step => if 455 < step then shrink (k + 36) rounds (step / 35) else (k, step)

/-- The bias after a character was placed. -/
def adapt (step points : Nat) (first : Bool) : Nat :=
  let step := if first then step / 700 else step / 2
  let (k, step) := shrink 0 step (step + step / points)
  k + 36 * step / (step + 38)

/-- The decoder between two digits: the characters so far, the number and place of the last one, the
bias, and the integer that is being read. -/
structure State where
  chars : List Char
  code : Nat
  place : Nat
  bias : Nat
  start : Nat
  weight : Nat
  digits : Nat

/-- A digit below this one is the last of an integer, at some place of it. -/
def threshold (k bias : Nat) : Nat :=
  if k ≤ bias then 1 else if bias + 26 ≤ k then 26 else k - bias

/-- A threshold is positive. -/
theorem threshold_pos (k bias : Nat) : 0 < threshold k bias := by
  unfold threshold
  split
  · exact Nat.one_pos
  · split <;> omega

/-- Reads one digit. -/
def step (s : State) (d : Nat) : Option State :=
  let k := 36 * (s.digits + 1)
  let t := threshold k s.bias
  let place := s.place + d * s.weight
  let weight := s.weight * (36 - t)
  if UInt32.size ≤ place then none
  else if t ≤ d then
    if UInt32.size ≤ weight then none else some { s with place, weight, digits := s.digits + 1 }
  else
    let n := s.chars.length + 1
    let code := s.code + place / n
    let spot := place % n
    if code < 0x110000 ∧ ¬(0xD800 ≤ code ∧ code < 0xE000) then
      some
        { chars := s.chars.take spot ++ Char.ofNat code :: s.chars.drop spot
          code
          place := spot + 1
          bias := adapt (place - s.start) n (s.start == 0)
          start := spot + 1
          weight := 1
          digits := 0 }
    else none

/-- Reads the digits of all integers. -/
def run (s : State) : List Char → Option (List Char)
  | [] => if s.digits = 0 then some s.chars else none
  | c :: cs => do
    let d ← digit? c
    let s ← step s d
    run s cs

/-- The parts before and after the last hyphen; without a hyphen, and with none but at the
beginning, all is in the second part. -/
def cutAtLastHyphen (cs : List Char) : List Char × List Char :=
  let tail := (cs.reverse.takeWhile (· ≠ '-')).reverse
  if cs.length ≤ tail.length + 1 then ([], cs) else (cs.take (cs.length - tail.length - 1), tail)

/-- The label that is meant. -/
def decode (cs : List Char) : Option (List Char) :=
  let (basic, digits) := cutAtLastHyphen cs
  run ⟨basic, 128, 0, 72, 0, 1, 0⟩ digits

/-- The digits of an integer from its digit at `k` on, the least one first. -/
def integer (bias k n : Nat) : List Char :=
  let t := threshold k bias
  if n < t then [digit n]
  else digit (t + (n - t) % (36 - t)) :: integer bias (k + 36) ((n - t) / (36 - t))
termination_by n
decreasing_by
  have := threshold_pos k bias
  exact Nat.lt_of_le_of_lt (Nat.div_le_self ..) (by omega)

/-- The characters beyond ASCII in the order in which they are placed: the number of each, and how
many of those placed before it stand to the left of it. -/
def placements (cs : List Char) : List (Nat × Nat) :=
  let found := cs.zipIdx.filter fun p => 128 ≤ p.1.toNat
  let placed := found.map fun p => (p.1.toNat, ((cs.take p.2).filter (· ≤ p.1)).length)
  placed.mergeSort fun p q => p.1 < q.1 || (p.1 == q.1 && p.2 ≤ q.2)

/-- The encoder between two characters: the number of the last one and the place after it, the
number of characters placed, the bias, and what has been written. -/
structure Progress where
  code : Nat
  place : Nat
  placed : Nat
  bias : Nat
  written : List Char

/-- Writes one character. -/
def Progress.put (s : Progress) (code spot : Nat) : Progress :=
  let n := s.placed + 1
  let distance := (code - s.code) * n + spot - s.place
  { code
    place := spot + 1
    placed := n
    bias := adapt distance n (s.place == 0)
    written := s.written ++ integer s.bias 36 distance }

/-- The text of a label in ASCII. -/
def encode (cs : List Char) : List Char :=
  let basic := cs.filter fun c => c.toNat < 128
  let start : Progress := ⟨128, 0, basic.length, 72, []⟩
  let done := (placements cs).foldl (fun s p => s.put p.1 p.2) start
  basic ++ (if basic = [] then [] else ['-']) ++ done.written

end RunHerald.Punycode
