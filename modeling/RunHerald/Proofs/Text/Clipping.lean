import RunHerald.Proofs.Notification.Fingerprint
import RunHerald.Webhook.Sink

/-!
# Clipped texts

A text that is too long is cut to the longest of its beginnings that fits (`LongestBeginning`), so
at most three bytes less are kept than there is room for: a character has at most four.

The same cut can be made in the bytes of the text. `lastBoundary` goes back from the room there is,
byte by byte, to the first place where no character is cut apart. It cannot miss one, since there is
always the beginning, and what it keeps are the bytes of `clip`, which are a text: `clipBytes_eq`.
-/

set_option autoImplicit false

namespace RunHerald

/-! ## Beginnings of texts -/

/-- The longest beginning of a text that has at most the given number of bytes. -/
structure LongestBeginning (room : Nat) (s p : String) : Prop where
  begins : ∃ rest, s = p ++ rest
  fits : p.utf8ByteSize ≤ room
  longest : ∀ q rest, s = q ++ rest → q.utf8ByteSize ≤ room → q.utf8ByteSize ≤ p.utf8ByteSize

/-- One text begins another if its characters do. -/
theorem begins_iff {s p : String} : (∃ rest, s = p ++ rest) ↔ p.toList <+: s.toList := by
  constructor
  · rintro ⟨rest, rfl⟩
    exact ⟨rest.toList, by simp⟩
  · rintro ⟨rest, hrest⟩
    refine ⟨String.ofList rest, String.toList_inj.1 ?_⟩
    rw [String.toList_append, String.toList_ofList, hrest]

/-- What fits is a beginning. -/
theorem fitting_isPrefix (room : Nat) (cs : List Char) : fitting room cs <+: cs := by
  induction cs generalizing room with
  | nil => exact List.nil_prefix
  | cons c cs ih =>
    rw [fitting]
    split
    · exact List.cons_prefix_cons.2 ⟨rfl, ih _⟩
    · exact List.nil_prefix

/-- What fits has no more bytes than there is room for. -/
theorem utf8Len_fitting_le (room : Nat) (cs : List Char) :
    String.utf8Len (fitting room cs) ≤ room := by
  induction cs generalizing room with
  | nil => exact Nat.zero_le _
  | cons c cs ih =>
    rw [fitting]
    split
    · have := ih (room - c.utf8Size)
      rw [String.utf8Len_cons]
      omega
    · exact Nat.zero_le _

/-- Whatever beginning fits begins the characters that are kept. -/
theorem isPrefix_fitting {room : Nat} {cs q : List Char} (hq : q <+: cs)
    (hroom : String.utf8Len q ≤ room) : q <+: fitting room cs := by
  induction cs generalizing room q with
  | nil => exact hq.trans List.nil_prefix
  | cons c cs ih =>
    obtain rfl | ⟨t, rfl, ht⟩ := List.prefix_cons_iff.1 hq
    · exact List.nil_prefix
    · rw [String.utf8Len_cons] at hroom
      rw [fitting, if_pos (by omega)]
      exact List.cons_prefix_cons.2 ⟨rfl, ih ht (by omega)⟩

/-- If characters do not all fit, less than one more character's room is left. -/
theorem lt_utf8Len_fitting {room : Nat} {cs : List Char} (h : room < String.utf8Len cs) :
    room < String.utf8Len (fitting room cs) + 4 := by
  induction cs generalizing room with
  | nil => exact absurd h (Nat.not_lt_zero _)
  | cons c cs ih =>
    have hsize := c.utf8Size_le_four
    rw [String.utf8Len_cons] at h
    rw [fitting]
    split
    · have hlost : room - c.utf8Size <
          String.utf8Len (fitting (room - c.utf8Size) cs) + 4 := ih (by omega)
      rw [String.utf8Len_cons]
      omega
    · rw [String.utf8Len_nil]
      omega

/-- A text that fits is left as it is. -/
theorem clip_of_le {room : Nat} {s : String} (h : s.utf8ByteSize ≤ room) : clip room s = s :=
  if_pos h

/-- Of a longer text the longest beginning that fits is kept. -/
theorem clip_of_lt {room : Nat} {s : String} (h : room < s.utf8ByteSize) :
    ∃ p, clip room s = p ++ "..." ∧ LongestBeginning room s p ∧ room < p.utf8ByteSize + 4 := by
  refine ⟨String.ofList (fitting room s.toList), if_neg (Nat.not_le.2 h), ⟨?_, ?_, ?_⟩, ?_⟩
  · rw [begins_iff, String.toList_ofList]
    exact fitting_isPrefix _ _
  · rw [String.utf8ByteSize_ofList]
    exact utf8Len_fitting_le _ _
  · intro q rest hq hroom
    rw [← String.utf8Len_toList] at hroom
    have hkept := isPrefix_fitting (begins_iff.1 ⟨rest, hq⟩) hroom
    obtain ⟨more, hmore⟩ := hkept
    rw [String.utf8ByteSize_ofList, ← hmore, String.utf8Len_append, String.utf8Len_toList]
    omega
  · rw [String.utf8ByteSize_ofList]
    exact lt_utf8Len_fitting (by rwa [String.utf8Len_toList])

/-! ## The same cut, byte by byte -/

/-- Whether a byte goes on with a character that began before it. -/
def isContinuation (b : UInt8) : Bool := 0x80 ≤ b && b < 0xC0

/-- Whether bytes can be cut after so many of them: there are none left, or one that begins a
character. -/
def isBoundary (bytes : List UInt8) (n : Nat) : Bool :=
  n = 0 || n = bytes.length || bytes[n]?.any fun b => !isContinuation b

/-- Goes back, byte by byte, to a place where bytes can be cut; none if the beginning is passed. -/
def lastBoundary (bytes : List UInt8) : Nat → Option Nat
  | 0 => if isBoundary bytes 0 then some 0 else none
  | n + 1 => if isBoundary bytes (n + 1) then some (n + 1) else lastBoundary bytes n

/-- Clips the bytes of a text; none if there is no place to cut them. -/
def clipBytes (room : Nat) (bytes : List UInt8) : Option (List UInt8) :=
  if bytes.length ≤ room then some bytes
  else (lastBoundary bytes room).map fun n => bytes.take n ++ utf8Bytes "..."

/-- The search ends at the last boundary up to where it began. -/
theorem lastBoundary_spec (bytes : List UInt8) (n : Nat) :
    ∃ m, lastBoundary bytes n = some m ∧ m ≤ n ∧ isBoundary bytes m = true ∧
      ∀ k, k ≤ n → isBoundary bytes k = true → k ≤ m := by
  induction n with
  | zero => exact ⟨0, rfl, le_rfl, rfl, fun k hk _ => hk⟩
  | succ n ih =>
    rw [lastBoundary]
    split
    · rename_i h
      exact ⟨n + 1, rfl, le_rfl, h, fun k hk _ => hk⟩
    · rename_i h
      obtain ⟨m, hm, hle, hboundary, hlast⟩ := ih
      refine ⟨m, hm, by omega, hboundary, ?_⟩
      intro k hk hkboundary
      obtain rfl | hlt := Nat.eq_or_lt_of_le hk
      · exact absurd hkboundary h
      · exact hlast k (Nat.lt_succ_iff.1 hlt) hkboundary

/-- A byte continues a character if its first two bits are 10. -/
theorem isContinuation_ofNat {n : Nat} (h : n < 256) :
    isContinuation (UInt8.ofNat n) = true ↔ 0x80 ≤ n ∧ n < 0xC0 := by
  simp [isContinuation, UInt8.le_iff_toNat_le, UInt8.lt_iff_toNat_lt, Nat.mod_eq_of_lt h]

/-- The bytes of a character are one that begins it and others that go on with it. -/
theorem exists_utf8EncodeChar_eq (c : Char) :
    ∃ b bs, String.utf8EncodeChar c = b :: bs ∧ isContinuation b = false ∧
      ∀ x ∈ bs, isContinuation x = true := by
  have hlead : ∀ n, n < 256 → ¬(0x80 ≤ n ∧ n < 0xC0) → isContinuation (UInt8.ofNat n) = false := by
    intro n hn hnot
    rw [← Bool.not_eq_true, isContinuation_ofNat hn]
    exact hnot
  have hnext : ∀ n, isContinuation (UInt8.ofNat (n % 64 + 128)) = true := by
    intro n
    rw [isContinuation_ofNat (by omega)]
    omega
  have htwo : ∀ m n, ∀ x ∈ [UInt8.ofNat (m % 64 + 128), UInt8.ofNat (n % 64 + 128)],
      isContinuation x = true :=
    fun m n => List.forall_mem_cons.2 ⟨hnext m, List.forall_mem_singleton.2 (hnext n)⟩
  unfold String.utf8EncodeChar
  dsimp only
  split
  · exact ⟨_, _, rfl, hlead _ (by omega) (by omega), fun x hx => absurd hx List.not_mem_nil⟩
  split
  · exact ⟨_, _, rfl, hlead _ (by omega) (by omega), List.forall_mem_singleton.2 (hnext _)⟩
  split
  · exact ⟨_, _, rfl, hlead _ (by omega) (by omega), htwo _ _⟩
  · exact ⟨_, _, rfl, hlead _ (by omega) (by omega), List.forall_mem_cons.2 ⟨hnext _, htwo _ _⟩⟩

/-- The bytes of a text do not begin in the midst of a character. -/
theorem isContinuation_head {cs : List Char} {x : UInt8}
    (h : x ∈ (cs.flatMap String.utf8EncodeChar).head?) : isContinuation x = false := by
  cases cs with
  | nil => cases h
  | cons c cs =>
    obtain ⟨b, bs, henc, hb, -⟩ := exists_utf8EncodeChar_eq c
    rw [List.flatMap_cons, henc] at h
    obtain rfl := Option.some.inj h
    exact hb

/-- Bytes can be cut before a character, or after it where the bytes that follow can be cut. -/
theorem isBoundary_cons_append {b : UInt8} {bs rest : List UInt8}
    (hbs : ∀ x ∈ bs, isContinuation x = true) (hrest : ∀ x ∈ rest.head?, isContinuation x = false)
    (n : Nat) :
    isBoundary (b :: bs ++ rest) n = true ↔
      n = 0 ∨ ∃ k, n = k + (bs.length + 1) ∧ isBoundary rest k = true := by
  cases n with
  | zero => simp [isBoundary]
  | succ n =>
    obtain hin | hout := Nat.lt_or_ge n bs.length
    · have hcontinues : isContinuation bs[n] = true := hbs _ (List.getElem_mem hin)
      have hwithin : ¬n = (bs ++ rest).length := by
        rw [List.length_append]
        omega
      have hnot : isBoundary (b :: bs ++ rest) (n + 1) = false := by
        simp [isBoundary, List.getElem?_append_left hin, List.getElem?_eq_getElem hin, hcontinues,
          -List.length_append, hwithin]
      refine iff_of_false (by rw [hnot]; exact Bool.false_ne_true) ?_
      rintro (h | ⟨k, hk, -⟩) <;> omega
    · obtain ⟨k, rfl⟩ := Nat.exists_eq_add_of_le hout
      have hget : (bs ++ rest)[bs.length + k]? = rest[k]? := by
        rw [List.getElem?_append_right hout, Nat.add_sub_cancel_left]
      have hsame : isBoundary (b :: bs ++ rest) (bs.length + k + 1) = isBoundary rest k := by
        simp only [isBoundary, List.cons_append, List.getElem?_cons_succ, hget]
        cases rest with
        | nil => cases k <;> simp
        | cons x rest =>
          have hx := hrest x rfl
          cases k <;> simp [hx]
      rw [hsame]
      constructor
      · intro h
        exact Or.inr ⟨k, by omega, h⟩
      · rintro (h | ⟨k', hk', h⟩)
        · omega
        · obtain rfl : k' = k := by omega
          exact h

/-- Bytes of a text can be cut just where one of its beginnings ends. -/
theorem isBoundary_iff (cs : List Char) (n : Nat) :
    isBoundary (cs.flatMap String.utf8EncodeChar) n = true ↔
      ∃ q, q <+: cs ∧ String.utf8Len q = n := by
  induction cs generalizing n with
  | nil =>
    simp [isBoundary, eq_comm]
  | cons c cs ih =>
    obtain ⟨b, bs, henc, -, hbs⟩ := exists_utf8EncodeChar_eq c
    have hsize : bs.length + 1 = c.utf8Size := by
      rw [← String.length_utf8EncodeChar c, henc, List.length_cons]
    have hrest : ∀ x ∈ (cs.flatMap String.utf8EncodeChar).head?, isContinuation x = false :=
      fun x => isContinuation_head
    rw [List.flatMap_cons, henc, isBoundary_cons_append hbs hrest, hsize]
    simp only [ih]
    constructor
    · rintro (rfl | ⟨k, rfl, q, hq, rfl⟩)
      · exact ⟨[], List.nil_prefix, rfl⟩
      · exact ⟨c :: q, List.cons_prefix_cons.2 ⟨rfl, hq⟩, String.utf8Len_cons c q⟩
    · rintro ⟨q, hq, rfl⟩
      obtain rfl | ⟨t, rfl, ht⟩ := List.prefix_cons_iff.1 hq
      · exact Or.inl rfl
      · exact Or.inr ⟨_, String.utf8Len_cons c t, t, ht, rfl⟩

/-- A number of bytes is a boundary if some beginning has so many. -/
theorem isBoundary_utf8Bytes_iff (s : String) (n : Nat) :
    isBoundary (utf8Bytes s) n = true ↔ ∃ q rest, s = q ++ rest ∧ q.utf8ByteSize = n := by
  rw [← String.ofList_toList (s := s), utf8Bytes_ofList, isBoundary_iff, String.ofList_toList]
  constructor
  · rintro ⟨q, hq, rfl⟩
    rw [← String.toList_ofList (l := q), ← begins_iff] at hq
    obtain ⟨rest, hrest⟩ := hq
    exact ⟨String.ofList q, rest, hrest, String.utf8ByteSize_ofList q⟩
  · rintro ⟨q, rest, hs, rfl⟩
    exact ⟨q.toList, begins_iff.1 ⟨rest, hs⟩, String.utf8Len_toList q⟩

/-- The bytes of two texts are those of each. -/
theorem utf8Bytes_append (s t : String) : utf8Bytes (s ++ t) = utf8Bytes s ++ utf8Bytes t := by
  simp [utf8Bytes]

/-- The search ends where the longest beginning that fits ends. -/
theorem lastBoundary_of_longestBeginning {room : Nat} {s p : String}
    (h : LongestBeginning room s p) :
    lastBoundary (utf8Bytes s) room = some p.utf8ByteSize := by
  obtain ⟨m, hm, hroom, hboundary, hlast⟩ := lastBoundary_spec (utf8Bytes s) room
  obtain ⟨q, rest, hs, rfl⟩ := (isBoundary_utf8Bytes_iff s m).1 hboundary
  obtain ⟨more, hp⟩ := h.begins
  have hle := h.longest q rest hs hroom
  have hge := hlast _ h.fits ((isBoundary_utf8Bytes_iff s _).2 ⟨p, more, hp, rfl⟩)
  rw [hm, Nat.le_antisymm hle hge]

/-- Clipped byte by byte, the bytes of a text are those of the clipped text. -/
theorem clipBytes_eq (room : Nat) (s : String) :
    clipBytes room (utf8Bytes s) = some (utf8Bytes (clip room s)) := by
  unfold clipBytes
  rw [length_utf8Bytes]
  split
  · rename_i h
    rw [clip_of_le h]
  · rename_i h
    obtain ⟨p, hclip, hp, -⟩ := clip_of_lt (Nat.not_le.1 h)
    obtain ⟨rest, rfl⟩ := hp.begins
    rw [hclip, lastBoundary_of_longestBeginning hp, Option.map_some, utf8Bytes_append,
      utf8Bytes_append, ← length_utf8Bytes p, List.take_left]

/-! ## The body of a response -/

namespace WebhookSink

/-- A body of at most 512 bytes is kept as it is. Of a longer one the longest beginning of at most
512 bytes is kept, which has at least 509, and three dots say so. It is found by going back in the
bytes of the body, which always ends at a place where no character is cut apart. -/
theorem body_keeps_longest_beginning (body : String) :
    clipBytes 512 (utf8Bytes body) = some (utf8Bytes (clip maxErrorBody body)) ∧
    (body.utf8ByteSize ≤ 512 → clip maxErrorBody body = body) ∧
    (512 < body.utf8ByteSize → ∃ p, clip maxErrorBody body = p ++ "..." ∧
      LongestBeginning 512 body p ∧ 509 ≤ p.utf8ByteSize ∧
      (clip maxErrorBody body).utf8ByteSize ≤ 515) := by
  refine ⟨clipBytes_eq 512 body, clip_of_le, ?_⟩
  intro hlong
  obtain ⟨p, hclip, hp, hroom⟩ := clip_of_lt hlong
  refine ⟨p, hclip, hp, by omega, ?_⟩
  have hfits := hp.fits
  have hdots : "...".utf8ByteSize = 3 := rfl
  change (clip 512 body).utf8ByteSize ≤ 515
  rw [hclip, String.utf8ByteSize_append, hdots]
  omega

/-- One narrow character and then characters of two bytes each. -/
def wideBody (n : Nat) : String := String.ofList ('x' :: List.replicate n 'é')

/-- The bytes of a wide body. -/
theorem utf8ByteSize_wideBody (n : Nat) : (wideBody n).utf8ByteSize = 2 * n + 1 := by
  rw [wideBody, String.utf8ByteSize_ofList]
  induction n with
  | zero => rfl
  | succ n ih =>
    have hwide : 'é'.utf8Size = 2 := rfl
    rw [String.utf8Len_cons] at ih ⊢
    rw [List.replicate_succ, String.utf8Len_cons, hwide]
    omega

/-- A wide body begins with every shorter one. -/
theorem wideBody_add (m n : Nat) : ∃ rest, wideBody (m + n) = wideBody m ++ rest := by
  refine ⟨String.ofList (List.replicate n 'é'), ?_⟩
  rw [wideBody, wideBody, ← String.ofList_append, List.cons_append, List.replicate_append_replicate]

/-- The beginnings of a wide body are shorter ones. -/
theorem begins_wideBody {n : Nat} {p rest : String} (h : wideBody n = p ++ rest) :
    p.utf8ByteSize = 0 ∨ ∃ m, p = wideBody m := by
  have hbegins := begins_iff.1 ⟨rest, h⟩
  rw [wideBody, String.toList_ofList, List.prefix_cons_iff] at hbegins
  obtain hnil | ⟨t, ht, hwide⟩ := hbegins
  · rw [← String.utf8Len_toList, hnil]
    exact Or.inl rfl
  · obtain ⟨-, hreplicate⟩ := List.prefix_replicate_iff.1 hwide
    refine Or.inr ⟨t.length, ?_⟩
    rw [wideBody, ← hreplicate, ← ht, String.ofList_toList]

/-- The character that begins with the 512th byte does not fit, so 511 bytes are kept. -/
theorem body_keeps_longest_beginning_of_wide :
    512 < (wideBody 300).utf8ByteSize ∧
      ∃ p, clip maxErrorBody (wideBody 300) = p ++ "..." ∧ LongestBeginning 512 (wideBody 300) p ∧
        p.utf8ByteSize = 511 := by
  have hlong : 512 < (wideBody 300).utf8ByteSize := by
    rw [utf8ByteSize_wideBody]
    decide
  obtain ⟨-, -, hclipped⟩ := body_keeps_longest_beginning (wideBody 300)
  obtain ⟨p, hp, hlongest, hroom, -⟩ := hclipped hlong
  refine ⟨hlong, p, hp, hlongest, ?_⟩
  have hfits := hlongest.fits
  obtain ⟨rest, hfirst⟩ := wideBody_add 255 45
  have hkept := hlongest.longest (wideBody 255) rest hfirst
  obtain ⟨more, hbegins⟩ := hlongest.begins
  obtain hnone | ⟨m, rfl⟩ := begins_wideBody hbegins
  · omega
  · rw [utf8ByteSize_wideBody] at hfits hkept ⊢
    rw [utf8ByteSize_wideBody] at hkept
    omega

end WebhookSink

end RunHerald
