/-!
# Text and bytes

* `decodeLossy` reads bytes as UTF-8. Bytes that are no part of a character are replaced: each
  longest run that could begin a character, or else each single byte, becomes one U+FFFD.
* `decodeExact?` reads bytes only if they are UTF-8.
* `clip` cuts a text to a number of bytes without splitting a character, and says so by three dots.
-/

set_option autoImplicit false

namespace RunHerald

/-- The UTF-8 bytes of a text. -/
def utf8Bytes (s : String) : List UInt8 := s.toUTF8.data.toList

/-- The bytes of a text are those of its characters. -/
theorem utf8Bytes_ofList (cs : List Char) :
    utf8Bytes (String.ofList cs) = cs.flatMap String.utf8EncodeChar := by
  rw [utf8Bytes, String.toUTF8_eq_toByteArray, String.toByteArray_ofList, List.utf8Encode]
  simp

/-- The character that stands for bytes that are no text. -/
def replacement : Char := '\uFFFD'

/-- What a first byte promises: how many bytes follow, the bits it holds, and the bounds of the
second byte, which rule out overlong forms, surrogates and numbers beyond the last character. -/
structure Lead where
  follow : Nat
  bits : Nat
  low : Nat
  high : Nat

/-- The promise of a byte that begins a character of several bytes. -/
def Lead.ofByte (b : Nat) : Option Lead :=
  if 0xC2 ≤ b ∧ b ≤ 0xDF then some ⟨1, b - 0xC0, 0x80, 0xBF⟩
  else if b = 0xE0 then some ⟨2, 0, 0xA0, 0xBF⟩
  else if b = 0xED then some ⟨2, 0xD, 0x80, 0x9F⟩
  else if 0xE1 ≤ b ∧ b ≤ 0xEF then some ⟨2, b - 0xE0, 0x80, 0xBF⟩
  else if b = 0xF0 then some ⟨3, 0, 0x90, 0xBF⟩
  else if 0xF1 ≤ b ∧ b ≤ 0xF3 then some ⟨3, b - 0xF0, 0x80, 0xBF⟩
  else if b = 0xF4 then some ⟨3, 4, 0x80, 0x8F⟩
  else none

/-- The decoder's state: between characters, or inside one with the bits so far, the number of
bytes still due and the bounds of the next one. -/
inductive Decoding where
  | between
  | inside (bits due low high : Nat)

/-- Takes a byte that does not continue a character. -/
def Decoding.start (b : UInt8) : Decoding × List Char :=
  if b.toNat < 0x80 then (.between, [Char.ofNat b.toNat])
  else
    match Lead.ofByte b.toNat with
    | some lead => (.inside lead.bits lead.follow lead.low lead.high, [])
    | none => (.between, [replacement])

/-- Takes one byte: the state after it and the characters that it completes. -/
def Decoding.step : Decoding → UInt8 → Decoding × List Char
  | .between, b => start b
  | .inside bits due low high, b =>
    if low ≤ b.toNat ∧ b.toNat ≤ high then
      let bits := bits * 64 + (b.toNat - 0x80)
      if due ≤ 1 then (.between, [Char.ofNat bits]) else (.inside bits (due - 1) 0x80 0xBF, [])
    else
      let (state, chars) := start b
      (state, replacement :: chars)

/-- The characters of some bytes, beginning in a given state. -/
def Decoding.run : Decoding → List UInt8 → List Char
  | .between, [] => []
  | .inside .., [] => [replacement]
  | state, b :: bs =>
    let (next, chars) := state.step b
    chars ++ next.run bs

/-- The text of some bytes, with replacements where they are not UTF-8. -/
def decodeLossy (bytes : List UInt8) : String := String.ofList (Decoding.between.run bytes)

/-- The text of some bytes, if they are its UTF-8. -/
def decodeExact? (bytes : List UInt8) : Option String :=
  let s := decodeLossy bytes
  if utf8Bytes s = bytes then some s else none

/-- The longest beginning of some characters that needs at most the given number of bytes. -/
def fitting : Nat → List Char → List Char
  | _, [] => []
  | room, c :: cs => if c.utf8Size ≤ room then c :: fitting (room - c.utf8Size) cs else []

/-- A text of at most `room` bytes as it is; of a longer one, the longest beginning that fits and
three dots. -/
def clip (room : Nat) (s : String) : String :=
  if s.utf8ByteSize ≤ room then s else String.ofList (fitting room s.toList) ++ "..."

end RunHerald
