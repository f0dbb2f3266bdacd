import Mathlib
import RunHerald.Url.Basic

/-!
# Hosts that are written in their usual form

A domain of small letters, digits and hyphens stands for itself: none of its characters is replaced,
taken apart or put together with another (`composed_name`), and none of its labels is spelled
otherwise (`Domain.spelled?_name`). So it is read as it is written, and so is an IPv4 address:
`Host.read_text`.
-/

set_option autoImplicit false

namespace RunHerald

/-- The characters of hosts in their usual form. -/
def Host.nameChars : List Char := "-.0123456789abcdefghijklmnopqrstuvwxyz".toList

/-- A host that is read as it is written. No label of a domain may claim to be Punycode, and the
last one is not a number. -/
def Host.Plain : Host → Prop
  | .domain name => name ≠ "" ∧ (∀ c ∈ name.toList, c ∈ nameChars) ∧
      (∀ label ∈ name.toList.splitOn '.', label.take 4 ≠ Domain.Label.sign) ∧
      endsInNumber name.toList = false
  | .ipv4 n => n < 2 ^ 32
  | .ipv6 _ => False

instance : DecidablePred Host.Plain
  | .domain name =>
    letI : Decidable (∀ c ∈ name.toList, c ∈ Host.nameChars) :=
      decidable_of_iff _ List.all_iff_forall_prop
    inferInstanceAs (Decidable (name ≠ "" ∧ (∀ c ∈ name.toList, c ∈ Host.nameChars) ∧
      (∀ label ∈ name.toList.splitOn '.', label.take 4 ≠ Domain.Label.sign) ∧
      Host.endsInNumber name.toList = false))
  | .ipv4 n => inferInstanceAs (Decidable (n < 2 ^ 32))
  | .ipv6 _ => inferInstanceAs (Decidable False)

/-! ## Bytes -/

section

variable {cs : List Char}

/-- Each character of ASCII is one byte. -/
theorem utf8Bytes_of_ascii (h : ∀ c ∈ cs, c.toNat < 0x80) :
    utf8Bytes (String.ofList cs) = cs.map fun c => UInt8.ofNat c.toNat := by
  have hsingle : ∀ c ∈ cs, String.utf8EncodeChar c = [UInt8.ofNat c.toNat] := by
    intro c hc
    have hlow : c.val ≤ 127 := UInt32.le_iff_toNat_le.2 (Nat.le_of_lt_succ (h c hc))
    exact String.utf8EncodeChar_eq_singleton (Char.utf8Size_eq_one_iff.2 hlow)
  rw [utf8Bytes_ofList, List.flatMap_congr hsingle, ← List.map_eq_flatMap]

/-- Bytes of ASCII are read as its characters. -/
theorem Decoding.run_of_ascii (h : ∀ c ∈ cs, c.toNat < 0x80) :
    between.run (cs.map fun c => UInt8.ofNat c.toNat) = cs := by
  induction cs with
  | nil => rfl
  | cons c cs ih =>
    rw [List.forall_mem_cons] at h
    have hbyte : (UInt8.ofNat c.toNat).toNat = c.toNat :=
      UInt8.toNat_ofNat_of_lt' (Nat.lt_trans h.1 (by decide))
    have hstep : between.step (UInt8.ofNat c.toNat) = (.between, [c]) := by
      rw [step, start, hbyte, if_pos h.1, Char.ofNat_toNat]
    rw [List.map_cons, run, hstep]
    exact congrArg (c :: ·) (ih h.2)

/-- The bytes of a text in ASCII are read as the text. -/
theorem decodeLossy_of_ascii (h : ∀ c ∈ cs, c.toNat < 0x80) :
    decodeLossy (utf8Bytes (String.ofList cs)) = String.ofList cs := by
  rw [decodeLossy, utf8Bytes_of_ascii h, Decoding.run_of_ascii h]

/-- A text in ASCII without escapes means itself. -/
theorem Host.percentDecode_of_ascii (h : ∀ c ∈ cs, c.toNat < 0x80) (hescape : '%' ∉ cs) :
    percentDecode cs = utf8Bytes (String.ofList cs) := by
  rw [utf8Bytes_of_ascii h]
  induction cs with
  | nil => rfl
  | cons c cs ih =>
    rw [List.forall_mem_cons] at h
    rw [List.mem_cons, not_or] at hescape
    have hbyte : utf8Bytes (String.singleton c) = [UInt8.ofNat c.toNat] := by
      rw [String.singleton_eq_ofList]
      exact utf8Bytes_of_ascii (List.forall_mem_singleton.2 h.1)
    rw [percentDecode, hbyte, ih h.2 hescape.2]
    · rfl
    · exact fun _ _ _ hc => absurd hc.symm hescape.1

end

/-! ## Composition -/

/-- A starter is put at the end of a text. -/
theorem settle_of_starter {c : Char} (h : isStarter c = true) (cs : List Char) :
    settle c cs = c :: cs := by
  have hclass : combiningClass c = 0 := by simpa [isStarter] using h
  cases cs <;> simp [settle, hclass]

/-- A text of starters is in order. -/
theorem canonicalOrder_of_starters {cs : List Char} (h : ∀ c ∈ cs, isStarter c = true) :
    canonicalOrder cs = cs := by
  have hfold : ∀ settled, cs.foldl (fun settled c => settle c settled) settled
      = cs.reverse ++ settled := by
    induction cs with
    | nil => exact fun settled => rfl
    | cons c cs ih =>
      intro settled
      rw [List.forall_mem_cons] at h
      rw [List.foldl_cons, settle_of_starter h.1, ih h.2, List.reverse_cons, List.append_assoc]
      rfl
  rw [canonicalOrder, hfold, List.append_nil, List.reverse_reverse]

/-- No character is put together with one of ASCII after it. -/
theorem joined?_ascii (a : Char) {b : Char} (hb : b.toNat < 0x80) : joined? a b = none := by
  have hhangul : hangulJoined? a.toNat b.toNat = none := by
    rw [hangulJoined?, if_neg (by omega), if_neg (by omega)]
  have htables : ∀ block ∈ composites, ∀ pair ∈ block.2, 0x80 ≤ pair.2 := by decide +kernel
  have hnone : ∀ blocks : List (Nat × List (Nat × Nat)),
      (∀ block ∈ blocks, ∀ pair ∈ block.2, 0x80 ≤ pair.2) →
      compositeIn? (a.toNat, b.toNat) blocks = none := by
    intro blocks hblocks
    induction blocks with
    | nil => rfl
    | cons block blocks ih =>
      rw [List.forall_mem_cons] at hblocks
      have habsent : block.2.idxOf? (a.toNat, b.toNat) = none := by
        rw [List.idxOf?_eq_none_iff]
        intro hmem
        exact absurd (hblocks.1 _ hmem) (by simp only; omega)
      obtain ⟨lo, pairs⟩ := block
      simp only [compositeIn?] at habsent ⊢
      rw [habsent]
      exact ih hblocks.2
  rw [joined?, hhangul, hnone composites htables]
  rfl

/-- A text of starters in ASCII is composed. -/
theorem composed_of_ascii {cs : List Char}
    (h : ∀ c ∈ cs, c.toNat < 0x80 ∧ isStarter c = true) : composed cs = cs := by
  have hapart : cs.flatMap decomposed = cs := by
    have hsingle : ∀ c ∈ cs, decomposed c = [c] := by
      intro c hc
      rw [decomposed, if_pos (Nat.lt_trans (h c hc).1 (by decide))]
    rw [List.flatMap_def, List.map_congr_left hsingle, ← List.flatMap_def, List.flatMap_singleton']
  -- no character is joined to the one before it
  have hpush : ∀ s : Composition, (cs.foldl Composition.push s).reversed = cs.reverse ++ s.reversed := by
    clear hapart
    induction cs with
    | nil => exact fun s => rfl
    | cons c cs ih =>
      intro s
      rw [List.forall_mem_cons] at h
      have happend : s.push c = s.append c := by
        unfold Composition.push
        split
        · rfl
        · rw [joined?_ascii _ h.1.1, ite_self]
      have hreversed : (s.append c).reversed = c :: s.reversed := by
        rw [Composition.append, if_pos h.1.2]
        rfl
      rw [List.foldl_cons, ih h.2, happend, hreversed, List.reverse_cons, List.append_assoc]
      rfl
  rw [composed, hapart, canonicalOrder_of_starters fun c hc => (h c hc).2]
  simp only [hpush]
  exact (congrArg List.reverse (List.append_nil _)).trans (List.reverse_reverse cs)

/-! ## Domains -/

/-- What is read of each item is read of all. -/
theorem mapM_eq_some_map {α β : Type} {f : α → Option β} {g : α → β} {l : List α}
    (h : ∀ a ∈ l, f a = some (g a)) : l.mapM f = some (l.map g) := by
  induction l with
  | nil => rfl
  | cons a l ih =>
    rw [List.forall_mem_cons] at h
    simp [h.1, ih h.2]

/-- What stands in a part of a list between separators stands in the list. -/
theorem mem_of_mem_splitOn {α : Type} [BEq α] [LawfulBEq α] {a x : α} {l part : List α}
    (hpart : part ∈ l.splitOn x) (ha : a ∈ part) : a ∈ l := by
  have hmem : ∀ parts : List (List α), part ∈ parts → a ∈ [x].intercalate parts := by
    intro parts hparts
    induction parts with
    | nil => cases hparts
    | cons p parts ih =>
      cases parts with
      | nil =>
        obtain rfl := List.mem_singleton.1 hparts
        simpa [List.intercalate] using ha
      | cons q parts =>
        rw [List.intercalate_cons_cons, List.append_assoc, List.mem_append]
        rcases List.mem_cons.1 hparts with rfl | hrest
        · exact Or.inl ha
        · exact Or.inr (List.mem_append_right _ (ih hrest))
  have hjoined := hmem _ hpart
  rwa [List.intercalate_splitOn] at hjoined

/-- What stands in parts with separators between is a separator or stands in a part. -/
theorem mem_intercalate {α : Type} {a x : α} {parts : List (List α)}
    (h : a ∈ [x].intercalate parts) : a = x ∨ ∃ part ∈ parts, a ∈ part := by
  induction parts with
  | nil => cases h
  | cons p parts ih =>
    cases parts with
    | nil => exact Or.inr ⟨p, List.mem_singleton_self p, by simpa [List.intercalate] using h⟩
    | cons q parts =>
      rw [List.intercalate_cons_cons, List.append_assoc, List.mem_append, List.mem_append,
        List.mem_singleton] at h
      rcases h with hp | hx | hrest
      · exact Or.inr ⟨p, List.mem_cons_self, hp⟩
      · exact Or.inl hx
      · rcases ih hrest with hx | ⟨part, hpart, ha⟩
        · exact Or.inl hx
        · exact Or.inr ⟨part, List.mem_cons_of_mem p hpart, ha⟩

section

open Domain Host

/-- What the tables say of the characters of hosts. -/
theorem nameChars_tables : ∀ c ∈ nameChars,
    meaning? c = some [c] ∧ isStarter c = true ∧ isMark c = false ∧ isForbidden c = false ∧
      direction c ≠ .right ∧ direction c ≠ .arabic :=
  List.all_iff_forall_prop.1 (by decide +kernel)

/-- The characters of hosts are in ASCII, none of them begins an escape, and they are no joiners. -/
theorem nameChars_ascii : ∀ c ∈ nameChars,
    c.toNat < 0x80 ∧ c ≠ '%' ∧ c ≠ Label.joiner ∧ c ≠ Label.nonJoiner :=
  List.all_iff_forall_prop.1 (by decide)

variable {cs : List Char}

/-- A label of such characters is spelled as it is. -/
theorem Domain.Label.read?_name (h : ∀ c ∈ cs, c ∈ nameChars) (hsign : cs.take 4 ≠ Label.sign) :
    Label.read? cs = some ⟨cs, cs⟩ := by
  have hjoiners : ∀ before, areJoinersInPlace before cs = true := by
    clear hsign
    induction cs with
    | nil => exact fun before => rfl
    | cons c cs ih =>
      intro before
      rw [List.forall_mem_cons] at h
      have hc := nameChars_ascii c h.1
      simp [areJoinersInPlace, hc.2.2.1, hc.2.2.2, ih h.2]
  have hplain : isPlain cs = true := by
    have hhead : cs.head?.any isMark = false := by
      cases cs with
      | nil => rfl
      | cons c cs => exact (nameChars_tables c (h c List.mem_cons_self)).2.2.1
    simp [isPlain, hhead, hjoiners]
  have hascii : cs.all isAscii = true := by
    simp only [List.all_eq_true, isAscii, decide_eq_true_eq]
    exact fun c hc => (nameChars_ascii c (h c hc)).1
  simp [read?, hsign, hplain, hascii]

/-- A domain of such characters is spelled as it is. -/
theorem Domain.spelled?_name (h : ∀ c ∈ cs, c ∈ nameChars)
    (hsign : ∀ label ∈ cs.splitOn '.', label.take 4 ≠ Label.sign) : spelled? cs = some cs := by
  have hmeanings : cs.mapM meaning? = some (cs.map fun c => [c]) :=
    mapM_eq_some_map fun c hc => (nameChars_tables c (h c hc)).1
  have hflat : (cs.map fun c => [c]).flatten = cs := by
    rw [← List.flatMap_def, List.flatMap_singleton']
  have hcomposed : composed cs = cs :=
    composed_of_ascii fun c hc =>
      ⟨(nameChars_ascii c (h c hc)).1, (nameChars_tables c (h c hc)).2.1⟩
  have hallowed : cs.any isForbidden = false := by
    rw [List.any_eq_false]
    intro c hc
    simp [(nameChars_tables c (h c hc)).2.2.2.1]
  have hmember : ∀ label ∈ cs.splitOn '.', ∀ c ∈ label, c ∈ nameChars := by
    intro label hlabel c hc
    exact h c (mem_of_mem_splitOn hlabel hc)
  have hlabels : (cs.splitOn '.').mapM Label.read? =
      some ((cs.splitOn '.').map fun label => ⟨label, label⟩) :=
    mapM_eq_some_map fun label hlabel => Label.read?_name (hmember label hlabel) (hsign label hlabel)
  have hdirection : ((cs.splitOn '.').map fun label => (⟨label, label⟩ : Label)).any
      Label.hasRightToLeft = false := by
    rw [List.any_map, List.any_eq_false]
    intro label hlabel
    simp only [Function.comp, Label.hasRightToLeft, Bool.not_eq_true, List.any_eq_false,
      decide_eq_true_eq, not_or]
    exact fun c hc => (nameChars_tables c (hmember label hlabel c hc)).2.2.2.2
  simp only [spelled?, labels?, hmeanings, hflat, hcomposed, hallowed, hlabels, hdirection,
    Option.bind_eq_bind, Option.bind_some, Bool.false_and, Bool.false_eq_true, if_false,
    Option.pure_def, Option.map_some, List.map_map]
  exact congrArg some ((congrArg _ (List.map_id _)).trans (List.intercalate_splitOn '.'))

/-! ## Reading -/

/-- Such characters mean themselves in a host. -/
theorem Host.decodeLossy_percentDecode_name (h : ∀ c ∈ cs, c ∈ nameChars) :
    (decodeLossy (percentDecode cs)).toList = cs := by
  have hascii : ∀ c ∈ cs, c.toNat < 0x80 := fun c hc => (nameChars_ascii c (h c hc)).1
  have hescape : '%' ∉ cs := fun hc => (nameChars_ascii '%' (h '%' hc)).2.1 rfl
  rw [percentDecode_of_ascii hascii hescape, decodeLossy_of_ascii hascii, String.toList_ofList]

/-- A text of such characters is read as a domain or as an IPv4 address, as it is. -/
theorem Host.read_name (h : ∀ c ∈ cs, c ∈ nameChars) (hne : cs ≠ [])
    (hsign : ∀ label ∈ cs.splitOn '.', label.take 4 ≠ Label.sign) :
    read cs = if endsInNumber cs then readIpv4 cs else .ok (.domain (String.ofList cs)) := by
  have hbracket : cs.head? ≠ some '[' := by
    intro hhead
    exact absurd (h _ (List.mem_of_mem_head? hhead)) (by decide)
  have hdomain : toDomain cs = .ok cs := by
    rw [toDomain, decodeLossy_percentDecode_name h, spelled?_name h hsign]
  rw [read, if_neg hbracket, hdomain]
  simp only [bind, Except.bind, hne, if_false]
  rfl

/-- The digits of a byte are read as its number. -/
theorem Host.ipv4Part_toString : ∀ n < 256, ipv4Part (toString n).toList = some n ∧
    (toString n).toList ≠ [] ∧ ∀ c ∈ (toString n).toList, c.isDigit = true ∧ c ∈ nameChars := by
  have hbyte : ∀ n < 256, ipv4Part (toString n).toList = some n ∧ (toString n).toList ≠ [] ∧
      ((toString n).toList.all fun c => c.isDigit = true ∧ c ∈ nameChars) = true := by
    decide +kernel
  intro n hn
  obtain ⟨hpart, hne, hchars⟩ := hbyte n hn
  exact ⟨hpart, hne, List.all_iff_forall_prop.1 hchars⟩

/-- The four bytes of an IPv4 address. -/
def Host.ipv4Bytes (n : Nat) : List Nat :=
  [n / 0x1000000, n / 0x10000 % 256, n / 256 % 256, n % 256]

/-- The bytes of an IPv4 address are bytes. -/
theorem Host.ipv4Bytes_lt {n : Nat} (h : n < 2 ^ 32) : ∀ b ∈ ipv4Bytes n, b < 256 := by
  rw [ipv4Bytes, List.forall_mem_cons, List.forall_mem_cons, List.forall_mem_cons,
    List.forall_mem_singleton]
  omega

/-- The bytes of an IPv4 address are put together to it. -/
theorem Host.ipv4OfParts_bytes {n : Nat} (h : n < 2 ^ 32) : ipv4OfParts (ipv4Bytes n) = some n := by
  simp only [ipv4OfParts, ipv4Bytes, List.reverse_cons, List.reverse_nil, List.nil_append,
    List.cons_append, List.length_cons, List.length_nil]
  rw [if_neg]
  · simp only [List.zipIdx, List.foldl, Nat.pow_eq]
    refine congrArg some ?_
    omega
  · simp
    omega

/-- The bytes of an IPv4 address as they are written. -/
def Host.ipv4Digits (n : Nat) : List (List Char) := (ipv4Bytes n).map fun b => (toString b).toList

/-- An IPv4 address is written with dots between the digits of its bytes. -/
theorem Host.toList_text_ipv4 (n : Nat) :
    (Host.ipv4 n).text.toList = ['.'].intercalate (ipv4Digits n) := by
  rw [text, String.toList_intercalate, List.map_map]
  rfl

/-- What is known of the digits of each byte. -/
theorem Host.ipv4Digits_spec {n : Nat} (h : n < 2 ^ 32) : ∀ digits ∈ ipv4Digits n,
    digits ≠ [] ∧ ∀ c ∈ digits, c.isDigit = true ∧ c ∈ nameChars := by
  rw [ipv4Digits, List.forall_mem_map]
  exact fun b hb => (ipv4Part_toString b (ipv4Bytes_lt h b hb)).2

/-- The text of an IPv4 address is cut at its dots. -/
theorem Host.splitOn_ipv4 {n : Nat} (h : n < 2 ^ 32) :
    (Host.ipv4 n).text.toList.splitOn '.' = ipv4Digits n := by
  rw [toList_text_ipv4, List.splitOn_intercalate]
  · intro digits hdigits hdot
    have := (((ipv4Digits_spec h digits hdigits).2 '.' hdot).1)
    cases this
  · simp [ipv4Digits, ipv4Bytes]

/-- The last byte of an IPv4 address is a number. -/
theorem Host.endsInNumber_ipv4 {n : Nat} (h : n < 2 ^ 32) :
    endsInNumber (Host.ipv4 n).text.toList = true := by
  have hlast := ipv4Digits_spec h (toString (n % 256)).toList (by simp [ipv4Digits, ipv4Bytes])
  rw [endsInNumber, cutAtDots, splitOn_ipv4 h]
  simp only [ipv4Digits, ipv4Bytes, List.map_cons, List.map_nil, List.reverse_cons,
    List.reverse_nil, List.nil_append, List.cons_append]
  cases hdigits : (toString (n % 256)).toList with
  | nil => exact absurd hdigits hlast.1
  | cons c cs =>
    rw [hdigits] at hlast
    simp only [ne_eq, reduceCtorEq, not_false_eq_true, decide_true, Bool.true_and, Bool.or_eq_true,
      List.all_eq_true]
    exact Or.inl fun d hd => (hlast.2 d hd).1

/-- The text of an IPv4 address is read as that address. -/
theorem Host.readIpv4_text {n : Nat} (h : n < 2 ^ 32) :
    readIpv4 (Host.ipv4 n).text.toList = .ok (.ipv4 n) := by
  have hnumbers : (ipv4Digits n).mapM ipv4Part = some (ipv4Bytes n) := by
    rw [ipv4Digits, List.mapM_map, mapM_eq_some_map (g := id), List.map_id]
    exact fun b hb => (ipv4Part_toString b (ipv4Bytes_lt h b hb)).1
  have hlast : (ipv4Digits n).getLast? ≠ some [] := by
    intro hempty
    exact (ipv4Digits_spec h [] (List.mem_of_getLast? hempty)).1 rfl
  rw [readIpv4, cutAtDots, splitOn_ipv4 h, if_neg hlast, hnumbers]
  simp only [ipv4OfParts_bytes h]

/-- A plain host is written with the characters of hosts, and not without any. -/
theorem Host.Plain.nameChars {host : Host} (h : host.Plain) :
    host.text.toList ≠ [] ∧ ∀ c ∈ host.text.toList, c ∈ Host.nameChars := by
  cases host with
  | ipv6 pieces => exact absurd h id
  | domain name => exact ⟨by simpa [text] using h.1, h.2.1⟩
  | ipv4 n =>
    have hspec := ipv4Digits_spec h
    constructor
    · intro hempty
      have hparts := splitOn_ipv4 h
      rw [hempty] at hparts
      have hnil : [] ∈ ipv4Digits n := by
        rw [← hparts]
        exact List.mem_singleton_self []
      exact (hspec [] hnil).1 rfl
    · intro c hc
      rw [toList_text_ipv4] at hc
      rcases mem_intercalate hc with rfl | ⟨digits, hdigits, hc⟩
      · decide
      · exact ((hspec digits hdigits).2 c hc).2

/-- No label of a plain host claims to be Punycode. -/
theorem Host.Plain.unsigned {host : Host} (h : host.Plain) :
    ∀ label ∈ host.text.toList.splitOn '.', label.take 4 ≠ Label.sign := by
  cases host with
  | ipv6 pieces => exact absurd h id
  | domain name => exact h.2.2.1
  | ipv4 n =>
    rw [splitOn_ipv4 h]
    intro digits hdigits hsign
    have hx : 'x' ∈ digits.take 4 := by
      rw [hsign]
      exact List.mem_cons_self
    have := ((ipv4Digits_spec h digits hdigits).2 'x' (List.mem_of_mem_take hx)).1
    cases this

/-- A plain host is read as it is written. -/
theorem Host.read_text {host : Host} (h : host.Plain) : read host.text.toList = .ok host := by
  rw [read_name h.nameChars.2 h.nameChars.1 h.unsigned]
  cases host with
  | ipv6 pieces => exact absurd h id
  | domain name => rw [text, h.2.2.2, if_neg (by simp), String.ofList_toList]
  | ipv4 n => rw [endsInNumber_ipv4 h, if_pos rfl, readIpv4_text h]

end

end RunHerald
