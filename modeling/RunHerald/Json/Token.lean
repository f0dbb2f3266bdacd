import RunHerald.Json.Basic
import RunHerald.Text.Numeral

/-!
# The tokens of JSON text

`lex` cuts a text into brackets, separators, words, numbers and quoted texts. Where no token can be
read the list ends with a broken one, which says whether the text is wrong there or only too short.

A reader may want the value of a token or only pass over it, and the two do not see the same faults.

* A number out of range, and a quoted text that holds half of a surrogate pair, are whole tokens
  without a value: they are faults only for a reader who wants it.
* A number that ends too early is only too short for a reader who wants its value, but wrong for one
  who passes over it. In a quoted text that ends too early, half of a surrogate pair is passed over.
-/

set_option autoImplicit false

namespace RunHerald

/-- Why a text is no JSON value. -/
inductive TextFault where
  | malformed
  | truncated
  deriving DecidableEq, Repr

/-- What is wrong with a text, for a reader who wants the value and for one who passes over it. -/
structure Break where
  wanted : TextFault
  skipped : TextFault
  deriving DecidableEq, Repr

/-- A fault that is the same for every reader. -/
def Break.same (fault : TextFault) : Break := ⟨fault, fault⟩

/-- A piece of JSON text. A broken token says whether it began as a word or number. -/
inductive Token where
  | openBracket
  | closeBracket
  | openBrace
  | closeBrace
  | comma
  | colon
  | null
  | bool (b : Bool)
  | num (n : Option JsonNumber)
  | str (s : Option String)
  | broken (word : Bool) (fault : Break)
  deriving DecidableEq, Repr

namespace Token

/-- A token and the characters after it. -/
abbrev Scan := Token × List Char

/-- The greatest number that unread digits are still added to. -/
def maxSignificand : Nat := UInt64.size - 1

/-- The greatest exponent whose digits are all read. -/
def maxExponent : Nat := 2147483647

/-- The token of a number that cannot be read on. -/
def brokenAt : List Char → Token
  | [] => .broken true ⟨.truncated, .malformed⟩
  | _ => .broken true (.same .malformed)

/-- Appends digits to a number as long as it stays below the bound: the number, and the digits that
were left. -/
def absorb (bound : Nat) : Nat → List Char → Nat × List Char
  | n, [] => (n, [])
  | n, c :: cs =>
    if n * 10 + digitValue c ≤ bound then absorb bound (n * 10 + digitValue c) cs else (n, c :: cs)

/-- A number that has a point or an exponent, or too many digits. -/
def scaled (negative : Bool) (significand : Nat) (exponent : Int) : Token :=
  .num ((Binary64.ofDecimal negative significand exponent).map .float)

/-- Reads the exponent of a number, after its letter. -/
def scanExponent (negative : Bool) (significand : Nat) (exponent : Int) (cs : List Char) : Scan :=
  let (down, cs) :=
    match cs with
    | '+' :: rest => (false, rest)
    | '-' :: rest => (true, rest)
    | _ => (false, cs)
  let digits := cs.takeWhile Char.isDigit
  let rest := cs.dropWhile Char.isDigit
  if digits = [] then (brokenAt cs, [])
  else
    match absorb maxExponent 0 digits with
    | (e, []) => (scaled negative significand (if down then exponent - e else exponent + e), rest)
    | _ =>
      if significand ≠ 0 ∧ down = false then (.num none, rest)
      else (.num (some (.float (Binary64.zero negative))), rest)

/-- Reads what follows the digits of a number: an exponent or nothing. -/
def scanTail (negative : Bool) (significand : Nat) (exponent : Int) : List Char → Scan
  | 'e' :: rest => scanExponent negative significand exponent rest
  | 'E' :: rest => scanExponent negative significand exponent rest
  | rest => (scaled negative significand exponent, rest)

/-- A number without a point or exponent. A minus sign before zero, or before too great a number,
makes it a double-precision number. -/
def whole (negative : Bool) (n : Nat) : Token :=
  if negative then
    if n = 0 ∨ 9223372036854775808 < n then scaled true n 0 else .num (some (.int (-(n : Int))))
  else .num (some (.int n))

/-- Reads a number after its sign. Digits beyond the greatest significand only count. -/
def scanNumber (negative : Bool) (cs : List Char) : Scan :=
  let digits := cs.takeWhile Char.isDigit
  let rest := cs.dropWhile Char.isDigit
  if digits = [] then (brokenAt cs, [])
  else if digits.head? = some '0' ∧ digits ≠ ['0'] then (.broken true (.same .malformed), [])
  else
    let (n, left) := absorb maxSignificand 0 digits
    match rest with
    | '.' :: rest =>
      let places := rest.takeWhile Char.isDigit
      let rest := rest.dropWhile Char.isDigit
      if places = [] then (brokenAt rest, [])
      else
        let (m, ignored) := absorb maxSignificand n places
        let used : Int := (places.length : Int) - ignored.length
        scanTail negative m ((left.length : Int) - used) rest
    | 'e' :: _ => scanTail negative n left.length rest
    | 'E' :: _ => scanTail negative n left.length rest
    | _ => if left = [] then (whole negative n, rest) else scanTail negative n left.length rest

/-- The value of a hexadecimal digit. -/
def hexValue? (c : Char) : Option Nat :=
  if c.isDigit then some (c.toNat - '0'.toNat)
  else if 'a' ≤ c ∧ c ≤ 'f' then some (c.toNat - 'a'.toNat + 10)
  else if 'A' ≤ c ∧ c ≤ 'F' then some (c.toNat - 'A'.toNat + 10)
  else none

/-- The number of four hexadecimal digits. -/
def hexFour? (a b c d : Char) : Option Nat := do
  return (((← hexValue? a) * 16 + (← hexValue? b)) * 16 + (← hexValue? c)) * 16 + (← hexValue? d)

/-- The character after a backslash as it is meant. -/
def escaped? : Char → Option Char
  | '"' => some '"'
  | '\\' => some '\\'
  | '/' => some '/'
  | 'b' => some '\x08'
  | 'f' => some '\x0c'
  | 'n' => some '\n'
  | 'r' => some '\r'
  | 't' => some '\t'
  | _ => none

/-- Whether fewer than four bytes are left. -/
def isShort (cs : List Char) : Bool := (cs.take 4).foldl (fun n c => n + c.utf8Size) 0 < 4

/-- The part of a quoted text that has been read: its characters in reverse, whether every escape
so far was a character, and the first half of a surrogate pair if that came last. -/
structure Partial where
  chars : List Char
  sound : Bool
  half : Option Nat

/-- Nothing read yet. -/
def Partial.empty : Partial := ⟨[], true, none⟩

/-- Adds a character; a waiting half is then alone. -/
def Partial.push (p : Partial) (c : Char) : Partial :=
  ⟨c :: p.chars, p.sound && p.half.isNone, none⟩

/-- Adds a 16-bit unit, which may be half of a surrogate pair. -/
def Partial.pushUnit (p : Partial) (n : Nat) : Partial :=
  if 0xD800 ≤ n ∧ n < 0xDC00 then ⟨p.chars, p.sound && p.half.isNone, some n⟩
  else if 0xDC00 ≤ n ∧ n < 0xE000 then
    match p.half with
    | some h =>
      ⟨Char.ofNat (0x10000 + (h - 0xD800) * 0x400 + (n - 0xDC00)) :: p.chars, p.sound, none⟩
    | none => ⟨p.chars, false, none⟩
  else p.push (Char.ofNat n)

/-- The token at the closing quote. -/
def Partial.close (p : Partial) : Token :=
  .str (if p.sound && p.half.isNone then some (String.ofList p.chars.reverse) else none)

/-- The token where the text ends before the closing quote. -/
def Partial.cut (p : Partial) (fault : TextFault) : Token :=
  .broken false ⟨if p.sound then fault else .malformed, fault⟩

/-- Reads a quoted text after its opening quote. -/
def scanText (p : Partial) : List Char → Scan
  | [] => (p.cut .truncated, [])
  | c :: rest =>
    if c = '"' then (p.close, rest)
    else if c = '\\' then
      match rest with
      | [] => (p.cut .truncated, [])
      | e :: rest =>
        if e = 'u' then
          match rest with
          | a :: b :: c :: d :: rest =>
            match hexFour? a b c d with
            | some n => scanText (p.pushUnit n) rest
            | none => (.broken false (.same .malformed), [])
          | short => (p.cut (if isShort short then .truncated else .malformed), [])
        else
          match escaped? e with
          | some c => scanText (p.push c) rest
          | none => (.broken false (.same .malformed), [])
    else if c.toNat < 0x20 then (.broken false (.same .malformed), [])
    else scanText (p.push c) rest

/-- Reads the rest of a word. -/
def scanWord (token : Token) : List Char → List Char → Scan
  | [], rest => (token, rest)
  | _ :: _, [] => (.broken true (.same .truncated), [])
  | w :: ws, c :: cs =>
    if c = w then scanWord token ws cs else (.broken true (.same .malformed), [])

/-- Reads one token that begins with the given character. -/
def scan (c : Char) (rest : List Char) : Scan :=
  if c = '[' then (.openBracket, rest)
  else if c = ']' then (.closeBracket, rest)
  else if c = '\x7b' then (.openBrace, rest)
  else if c = '\x7d' then (.closeBrace, rest)
  else if c = ',' then (.comma, rest)
  else if c = ':' then (.colon, rest)
  else if c = '"' then scanText .empty rest
  else if c = 'n' then scanWord .null ['u', 'l', 'l'] rest
  else if c = 't' then scanWord (.bool true) ['r', 'u', 'e'] rest
  else if c = 'f' then scanWord (.bool false) ['a', 'l', 's', 'e'] rest
  else if c = '-' then scanNumber true rest
  else if c.isDigit then scanNumber false (c :: rest)
  else (.broken false (.same .malformed), [])

/-! ### No scan gives back more than it was given -/

/-- A beginning and its rest are together as long as the whole. -/
theorem length_takeWhile_add_dropWhile (p : Char → Bool) (cs : List Char) :
    (cs.takeWhile p).length + (cs.dropWhile p).length = cs.length := by
  rw [← List.length_append, List.takeWhile_append_dropWhile]

/-- Reading an exponent leaves no more than there was. -/
theorem length_scanExponent_le (negative : Bool) (significand : Nat) (exponent : Int)
    (cs : List Char) : (scanExponent negative significand exponent cs).2.length ≤ cs.length := by
  unfold scanExponent
  split
  rename_i down rest h
  have hrest : rest.length ≤ cs.length := by split at h <;> cases h <;> simp
  have := length_takeWhile_add_dropWhile Char.isDigit rest
  dsimp only
  split
  · exact Nat.zero_le _
  · split
    · dsimp only; omega
    · split <;> dsimp only <;> omega

/-- Reading the end of a number leaves no more than there was. -/
theorem length_scanTail_le (negative : Bool) (significand : Nat) (exponent : Int)
    (cs : List Char) : (scanTail negative significand exponent cs).2.length ≤ cs.length := by
  unfold scanTail
  split
  · exact Nat.le_succ_of_le (length_scanExponent_le ..)
  · exact Nat.le_succ_of_le (length_scanExponent_le ..)
  · exact Nat.le_refl _

/-- A number takes at least one character, and one that cannot be read takes all. -/
theorem length_scanNumber_le (negative : Bool) (cs : List Char) :
    (scanNumber negative cs).2.length ≤ cs.length - 1 := by
  have hspan := length_takeWhile_add_dropWhile Char.isDigit cs
  unfold scanNumber
  dsimp only
  split
  · exact Nat.zero_le _
  rename_i hdigits
  have hpos := List.length_pos_iff.2 hdigits
  split
  · exact Nat.zero_le _
  split
  · rename_i places h
    rw [h, List.length_cons] at hspan
    have := length_takeWhile_add_dropWhile Char.isDigit places
    split
    · exact Nat.zero_le _
    · exact Nat.le_trans (length_scanTail_le ..) (by omega)
  · exact Nat.le_trans (length_scanTail_le ..) (by omega)
  · exact Nat.le_trans (length_scanTail_le ..) (by omega)
  · split
    · dsimp only; omega
    · exact Nat.le_trans (length_scanTail_le ..) (by omega)

/-- Reading a text leaves no more than there was. -/
theorem length_scanText_le (p : Partial) (cs : List Char) :
    (scanText p cs).2.length ≤ cs.length := by
  fun_induction scanText p cs <;> simp_all <;> omega

/-- Reading a word leaves no more than there was. -/
theorem length_scanWord_le (token : Token) (word cs : List Char) :
    (scanWord token word cs).2.length ≤ cs.length := by
  fun_induction scanWord token word cs with
  | case1 => exact Nat.le_refl _
  | case2 => exact Nat.le_refl _
  | case3 _ _ _ ih => exact Nat.le_succ_of_le ih
  | case4 => exact Nat.zero_le _

/-- Neither of two ways leaves more than there was. -/
theorem length_ite_le {p : Prop} [Decidable p] {a b : Scan} {n : Nat} (ha : a.2.length ≤ n)
    (hb : b.2.length ≤ n) : (if p then a else b).2.length ≤ n := by
  split
  · exact ha
  · exact hb

/-- What follows a token is no longer than what followed its first character. -/
theorem length_scan_le (c : Char) (rest : List Char) : (scan c rest).2.length ≤ rest.length := by
  unfold scan
  iterate 6 refine length_ite_le (Nat.le_refl _) ?_
  refine length_ite_le (length_scanText_le ..) ?_
  iterate 3 refine length_ite_le (length_scanWord_le ..) ?_
  refine length_ite_le (Nat.le_trans (length_scanNumber_le ..) (Nat.sub_le ..)) ?_
  exact length_ite_le (length_scanNumber_le false (c :: rest)) (Nat.zero_le _)

/-- Whether a character may stand between tokens. -/
def isSpace (c : Char) : Bool := c = ' ' || c = '\n' || c = '\t' || c = '\r'

/-- The tokens of a text. -/
def lex : List Char → List Token
  | [] => []
  | c :: rest =>
    if isSpace c then lex rest
    else
      match _h : scan c rest with
      | (token, more) => token :: lex more
termination_by cs => cs.length
decreasing_by
  · exact Nat.lt_succ_self _
  · exact Nat.lt_succ_of_le (by simpa [_h] using length_scan_le c rest)

end Token

end RunHerald
