import Mathlib
import RunHerald.Json.Compact
import RunHerald.Json.Decode
import RunHerald.Json.Draft

/-!
# JSON text is read back

A text may spell the same tokens in many ways: with blanks between them, and with characters that
are written as they are, by a short escape, or by the numbers of their UTF-16 units. `Spells` is the
relation between tokens and their texts, and `lex_of_spells` says that each such text is cut into
just these tokens. Numbers are left out of it.

The tokens of a value are read as its draft, whatever containers are open around it
(`build_tokens`), and the draft as the value with the members of every object sorted
(`toJson_draft`). So a text is read as the value that it spells: `ofText_of_spells`. The text that
`Json.compact` writes is one that spells its value: `spells_compact`.
-/

set_option autoImplicit false

namespace RunHerald

namespace Token

/-! ## Characters between quotes -/

/-- The ways in which a character may be written between quotes. -/
inductive CharSpelling (c : Char) : List Char → Prop
  | plain (hcontrol : 0x20 ≤ c.toNat) (hquote : c ≠ '"') (hslash : c ≠ '\\') : CharSpelling c [c]
  | short (e : Char) (h : escaped? e = some c) : CharSpelling c ['\\', e]
  | unit (x₁ x₂ x₃ x₄ : Char) (h : hexFour? x₁ x₂ x₃ x₄ = some c.toNat) :
    CharSpelling c ['\\', 'u', x₁, x₂, x₃, x₄]
  | pair (x₁ x₂ x₃ x₄ y₁ y₂ y₃ y₄ : Char) (high low : Nat)
    (hx : hexFour? x₁ x₂ x₃ x₄ = some (0xD800 + high)) (hhigh : high < 0x400)
    (hy : hexFour? y₁ y₂ y₃ y₄ = some (0xDC00 + low)) (hlow : low < 0x400)
    (hc : c.toNat = 0x10000 + high * 0x400 + low) :
    CharSpelling c ['\\', 'u', x₁, x₂, x₃, x₄, '\\', 'u', y₁, y₂, y₃, y₄]

/-- The ways in which characters may be written between quotes. -/
inductive TextSpelling : List Char → List Char → Prop
  | nil : TextSpelling [] []
  | cons (c : Char) (w cs ws : List Char) (hc : CharSpelling c w) (h : TextSpelling cs ws) :
    TextSpelling (c :: cs) (w ++ ws)

/-- The number of a character is not half of a surrogate pair. -/
theorem toNat_not_surrogate (c : Char) : ¬(0xD800 ≤ c.toNat ∧ c.toNat < 0xE000) := by
  have hvalid : c.toNat < 0xD800 ∨ (0xDFFF < c.toNat ∧ c.toNat < 0x110000) := c.valid
  omega

/-- The code of a character stands for the character. -/
theorem pushUnit_toNat (p : Partial) (c : Char) : p.pushUnit c.toNat = p.push c := by
  have hc := toNat_not_surrogate c
  unfold Partial.pushUnit
  rw [if_neg (by omega), if_neg (by omega), Char.ofNat_toNat]

/-- Two halves of a surrogate pair make one character. -/
theorem pushUnit_pair {chars : List Char} {c : Char} {high low : Nat} (hhigh : high < 0x400)
    (hlow : low < 0x400) (hc : c.toNat = 0x10000 + high * 0x400 + low) :
    ((⟨chars, true, none⟩ : Partial).pushUnit (0xD800 + high)).pushUnit (0xDC00 + low) =
      ⟨c :: chars, true, none⟩ := by
  have hfirst : (⟨chars, true, none⟩ : Partial).pushUnit (0xD800 + high) =
      ⟨chars, true, some (0xD800 + high)⟩ := by
    rw [Partial.pushUnit, if_pos (by omega)]
    rfl
  have hnumber : 0x10000 + (0xD800 + high - 0xD800) * 0x400 + (0xDC00 + low - 0xDC00) = c.toNat := by
    omega
  rw [hfirst, Partial.pushUnit, if_neg (by omega), if_pos (by omega)]
  simp only [hnumber, Char.ofNat_toNat]

/-- A character that is written in any way is read as itself. -/
theorem scanText_char {c : Char} {w : List Char} (h : CharSpelling c w) (chars rest : List Char) :
    scanText ⟨chars, true, none⟩ (w ++ rest) = scanText ⟨c :: chars, true, none⟩ rest := by
  cases h with
  | plain hcontrol hquote hslash =>
    rw [List.singleton_append, scanText.eq_def]
    simp only [if_neg hquote, if_neg hslash, if_neg (Nat.not_lt.2 hcontrol)]
    rfl
  | short e h =>
    have hu : e ≠ 'u' := by
      rintro rfl
      simp [escaped?] at h
    rw [List.cons_append, List.singleton_append, scanText.eq_def]
    simp [hu, h, Partial.push]
  | unit x₁ x₂ x₃ x₄ h =>
    rw [scanText.eq_def]
    simp [h, pushUnit_toNat, Partial.push]
  | pair x₁ x₂ x₃ x₄ y₁ y₂ y₃ y₄ high low hx hhigh hy hlow hc =>
    rw [scanText.eq_def]
    simp only [List.cons_append, List.nil_append, hx]
    simp only [show ('\\' = '"') = False by decide, if_false, if_true]
    rw [scanText.eq_def]
    simp [hy, pushUnit_pair hhigh hlow hc]

/-- Characters that are written in any way are read as themselves, up to the closing quote. -/
theorem scanText_spelling {cs ws : List Char} (h : TextSpelling cs ws) (chars rest : List Char) :
    scanText ⟨chars, true, none⟩ (ws ++ '"' :: rest) =
      (.str (some (String.ofList (chars.reverse ++ cs))), rest) := by
  induction h generalizing chars with
  | nil =>
    rw [List.nil_append, scanText.eq_def]
    simp [Partial.close]
  | cons c w cs ws hc _ ih =>
    rw [List.append_assoc, scanText_char hc, ih]
    simp

/-! ## Tokens -/

/-- The ways in which a token may be written, numbers apart. -/
inductive Spelling : Token → List Char → Prop
  | openBracket : Spelling .openBracket ['[']
  | closeBracket : Spelling .closeBracket [']']
  | openBrace : Spelling .openBrace ['\x7b']
  | closeBrace : Spelling .closeBrace ['\x7d']
  | comma : Spelling .comma [',']
  | colon : Spelling .colon [':']
  | null : Spelling .null ['n', 'u', 'l', 'l']
  | true : Spelling (.bool true) ['t', 'r', 'u', 'e']
  | false : Spelling (.bool false) ['f', 'a', 'l', 's', 'e']
  | str (s : String) (ws : List Char) (h : TextSpelling s.toList ws) :
    Spelling (.str (some s)) ('"' :: (ws ++ ['"']))

/-- The ways in which tokens may be written, with blanks between them. -/
inductive Spells : List Token → List Char → Prop
  | nil : Spells [] []
  | blank (c : Char) (ts : List Token) (cs : List Char) (hc : isSpace c = true)
    (h : Spells ts cs) : Spells ts (c :: cs)
  | token (t : Token) (w : List Char) (ts : List Token) (cs : List Char) (ht : Spelling t w)
    (h : Spells ts cs) : Spells (t :: ts) (w ++ cs)

/-- A token that is written in any way is read as itself. -/
theorem scan_spelling {t : Token} {w : List Char} (h : Spelling t w) (rest : List Char) :
    ∃ c cs, w ++ rest = c :: cs ∧ isSpace c = false ∧ scan c cs = (t, rest) := by
  cases h with
  | str s ws h =>
    refine ⟨'"', ws ++ '"' :: rest, by simp, rfl, ?_⟩
    have hscan := scanText_spelling h [] rest
    rw [List.reverse_nil, List.nil_append, String.ofList_toList] at hscan
    exact hscan
  | _ => exact ⟨_, _, rfl, rfl, rfl⟩

/-- Tokens are read one after another, without the spaces before them. -/
theorem lex_cons (c : Char) (rest : List Char) :
    lex (c :: rest) =
      if isSpace c then lex rest else (scan c rest).1 :: lex (scan c rest).2 := by
  rw [lex]

/-- A text is cut into the tokens that it spells. -/
theorem lex_of_spells {ts : List Token} {cs : List Char} (h : Spells ts cs) : lex cs = ts := by
  induction h with
  | nil => rw [lex]
  | blank c ts cs hc _ ih => rw [lex_cons, if_pos hc, ih]
  | token t w ts cs ht _ ih =>
    obtain ⟨c, rest, hw, hspace, hscan⟩ := scan_spelling ht cs
    rw [hw, lex_cons, hspace, hscan, ih]
    rfl

/-- What is written for a character between quotes is one of its spellings. -/
theorem charSpelling_plainText (c : Char) : CharSpelling c (Json.plainText c) := by
  unfold Json.plainText
  split_ifs with hquote hslash hb hf hn hr ht hcontrol
  · exact .short '"' (hquote.symm ▸ rfl)
  · exact .short '\\' (hslash.symm ▸ rfl)
  · exact .short 'b' (hb.symm ▸ rfl)
  · exact .short 'f' (hf.symm ▸ rfl)
  · exact .short 'n' (hn.symm ▸ rfl)
  · exact .short 'r' (hr.symm ▸ rfl)
  · exact .short 't' (ht.symm ▸ rfl)
  · have hunit : ∀ n < 0x20,
        hexFour? '0' '0' (Nat.digitChar (n / 0x10 % 16)) (Nat.digitChar (n % 16)) = some n := by
      decide
    exact .unit _ _ _ _ (hunit _ hcontrol)
  · exact .plain (Nat.le_of_not_lt hcontrol) hquote hslash

/-- A text that is written plainly spells its characters. -/
theorem textSpelling_plainText (cs : List Char) : TextSpelling cs (cs.flatMap Json.plainText) := by
  induction cs with
  | nil => exact .nil
  | cons c cs ih =>
    rw [List.flatMap_cons]
    exact .cons _ _ _ _ (charSpelling_plainText c) ih

/-- What is written for a text is one of its spellings. -/
theorem spelling_str (s : String) : Spelling (.str (some s)) (written (.str (some s))) :=
  .str s _ (textSpelling_plainText s.toList)

/-- Tokens that are written so that each can be read back spell themselves. -/
theorem spells_written {ts : List Token} (h : ∀ t ∈ ts, Spelling t t.written) :
    Spells ts (ts.flatMap written) := by
  induction ts with
  | nil => exact .nil
  | cons t ts ih =>
    rw [List.forall_mem_cons] at h
    rw [List.flatMap_cons]
    exact .token _ _ _ _ h.1 (ih h.2)

end Token

/-! ## Values -/

namespace Json

mutual

/-- The draft of a value: every container is closed. -/
def draft : Json → Draft
  | .null => .null
  | .bool b => .bool b
  | .num n => .num (some n)
  | .str s => .str (some s)
  | .arr items => .arr (drafts items) .closed
  | .obj members => .obj (memberDrafts members) .closed

/-- The drafts of the items of an array. -/
def drafts : List Json → List Draft
  | [] => []
  | v :: vs => v.draft :: drafts vs

/-- The drafts of the members of an object. -/
def memberDrafts : List (String × Json) → List (Option String × Draft)
  | [] => []
  | (k, v) :: rest => (some k, v.draft) :: memberDrafts rest
end

mutual

/-- How deep containers nest in a value. -/
def depth : Json → Nat
  | .arr items => itemDepth items + 1
  | .obj members => memberDepth members + 1
  | _ => 0

/-- How deep containers nest in the items of an array. -/
def itemDepth : List Json → Nat
  | [] => 0
  | v :: vs => max v.depth (itemDepth vs)

/-- How deep containers nest in the members of an object. -/
def memberDepth : List (String × Json) → Nat
  | [] => 0
  | (_, v) :: rest => max v.depth (memberDepth rest)
end

mutual

/-- A value with the members of every object in the order of their keys, the last of equal ones. -/
def sorted : Json → Json
  | .arr items => .arr (sortedItems items)
  | .obj members => .obj (Dictionary.ofList (sortedMembers members)).entries
  | v => v

/-- The items of an array, each of them sorted. -/
def sortedItems : List Json → List Json
  | [] => []
  | v :: vs => v.sorted :: sortedItems vs

/-- The members of an object in their own order, each of them sorted. -/
def sortedMembers : List (String × Json) → List (String × Json)
  | [] => []
  | (k, v) :: rest => (k, v.sorted) :: sortedMembers rest
end

end Json

namespace Draft

open Json (drafts memberDrafts itemTokens moreItems memberTokens moreMembers)

/-- Goes on after a value: with the innermost container, or to the end of the text. -/
def resume (d : Draft) : List Frame → List Token → Reading
  | [], ts => ⟨d, !ts.isEmpty⟩
  | frame :: outer, ts => build .afterValue (settle d (frame :: outer)) ts

/-- The first item of an array is read like every other one. -/
theorem build_firstItem (v : Json) (frame : Frame) (outer : List Frame) (ts : List Token) :
    build .firstItem (frame :: outer) (v.tokens ++ ts) =
      build .value (frame :: outer) (v.tokens ++ ts) := by
  cases v <;> simp [Json.tokens, build, ofToken?]

/-- A bracket that is closed at once makes an empty list. -/
theorem build_closeBracket (frame : Frame) (outer : List Frame) (ts : List Token) :
    build .firstItem (frame :: outer) (.closeBracket :: ts) = resume (.arr [] .closed) outer ts := by
  cases outer <;> simp [build, resume]

/-- A brace that is closed at once makes an empty object. -/
theorem build_closeBrace (frame : Frame) (outer : List Frame) (ts : List Token) :
    build .firstKey (frame :: outer) (.closeBrace :: ts) = resume (.obj [] .closed) outer ts := by
  cases outer <;> simp [build, resume]

mutual

/-- The tokens of a value are read as its draft, whatever containers are open around it. -/
theorem build_tokens (v : Json) (stack : List Frame) (ts : List Token) :
    build .value stack (v.tokens ++ ts) = resume v.draft stack ts := by
  cases v with
  | arr items =>
    rw [Json.tokens, Json.draft, List.cons_append, build]
    cases items with
    | nil =>
      rw [itemTokens, List.singleton_append, build_closeBracket]
      rfl
    | cons v vs =>
      -- no comma stands before the first item, so it is read before `build_moreItems` takes over
      rw [itemTokens, List.append_assoc, build_firstItem, build_tokens v]
      exact build_moreItems vs [v.draft] stack ts
  | obj members =>
    rw [Json.tokens, Json.draft, List.cons_append, build]
    cases members with
    | nil =>
      rw [memberTokens, List.singleton_append, build_closeBrace]
      rfl
    | cons member rest =>
      obtain ⟨k, v⟩ := member
      rw [memberTokens, List.cons_append, List.cons_append, List.append_assoc, build, build,
        build_tokens v]
      exact build_moreMembers rest [(some k, v.draft)] (some k) stack ts
  | _ => cases stack <;> simp [Json.tokens, Json.draft, build, ofToken?, resume]

/-- The tokens after an item of an array are read as the items that follow it. -/
theorem build_moreItems (vs : List Json) (done : List Draft) (outer : List Frame)
    (ts : List Token) :
    build .afterValue (.items done :: outer) (moreItems vs ++ ts) =
      resume (.arr (done.reverse ++ drafts vs) .closed) outer ts := by
  cases vs with
  | nil =>
    rw [moreItems, drafts, List.append_nil]
    cases outer <;> simp [build, resume]
  | cons v vs =>
    rw [moreItems, List.cons_append, List.append_assoc, build, build_tokens v, resume, settle,
      build_moreItems vs, List.reverse_cons, List.append_assoc]
    rfl

/-- The tokens after a member of an object are read as the members that follow it. -/
theorem build_moreMembers (ms : List (String × Json)) (done : List (Option String × Draft))
    (key : Option String) (outer : List Frame) (ts : List Token) :
    build .afterValue (.members done key :: outer) (moreMembers ms ++ ts) =
      resume (.obj (done.reverse ++ memberDrafts ms) .closed) outer ts := by
  cases ms with
  | nil =>
    rw [moreMembers, memberDrafts, List.append_nil]
    cases outer <;> simp [build, resume]
  | cons member rest =>
    obtain ⟨k, v⟩ := member
    rw [moreMembers, List.cons_append, List.cons_append, List.cons_append, List.append_assoc,
      build, build, build, build_tokens v, resume, settle, build_moreMembers rest,
      List.reverse_cons, List.append_assoc]
    rfl
end

/-- A text that spells a value is read as its draft, and nothing follows it. -/
theorem ofText_of_spells {v : Json} {text : String} (h : Token.Spells v.tokens text.toList) :
    Draft.ofText text = ⟨v.draft, false⟩ := by
  have hbuild := build_tokens v [] []
  rw [List.append_nil] at hbuild
  rw [Draft.ofText, Token.lex_of_spells h, hbuild]
  rfl

/-- There is room for a container inside one more. -/
theorem descend_of_lt {n room : Nat} (h : n + 1 < room) : descend room = .ok (room - 1) := by
  rw [descend, if_neg (by omega)]

mutual

/-- The draft of a value has that value, with the members of its objects sorted. -/
theorem toJson_draft (v : Json) (room : Nat) (h : v.depth < room) :
    v.draft.toJson room = .ok v.sorted := by
  cases v with
  | arr items =>
    rw [Json.depth] at h
    -- one container is entered, so its items have less room, but are less deep as well
    have hitems := toItems_drafts items (room - 1) (by omega)
    rw [Json.draft, toJson, Json.sorted]
    exact bind_eq_ok_iff.2 ⟨_, descend_of_lt h, bind_eq_ok_iff.2 ⟨_, hitems, rfl⟩⟩
  | obj members =>
    rw [Json.depth] at h
    have hmembers := toMembers_drafts members (room - 1) (by omega)
    rw [Json.draft, toJson, Json.sorted]
    exact bind_eq_ok_iff.2 ⟨_, descend_of_lt h, bind_eq_ok_iff.2 ⟨_, hmembers, rfl⟩⟩
  | _ => simp only [Json.draft, toJson, Json.sorted]

/-- The drafts of items become the items, sorted inside. -/
theorem toItems_drafts (vs : List Json) (room : Nat) (h : Json.itemDepth vs < room) :
    toItems room (drafts vs) = .ok (Json.sortedItems vs) := by
  cases vs with
  | nil => simp only [drafts, toItems, Json.sortedItems]
  | cons v vs =>
    rw [Json.itemDepth, max_lt_iff] at h
    simp only [drafts, toItems, toJson_draft v room h.1, toItems_drafts vs room h.2,
      Json.sortedItems]
    rfl

/-- The drafts of members become the members, sorted. -/
theorem toMembers_drafts (ms : List (String × Json)) (room : Nat) (h : Json.memberDepth ms < room) :
    toMembers room (memberDrafts ms) = .ok (Json.sortedMembers ms) := by
  cases ms with
  | nil => simp only [memberDrafts, toMembers, Json.sortedMembers]
  | cons member rest =>
    obtain ⟨k, v⟩ := member
    rw [Json.memberDepth, max_lt_iff] at h
    simp only [memberDrafts, toMembers, toJson_draft v room h.1, toMembers_drafts rest room h.2,
      Json.sortedMembers]
    rfl
end

end Draft

namespace Json

/-- A text that spells a value is that value, with the members of its objects sorted. -/
theorem ofText_of_spells {v : Json} {text : String} (h : Token.Spells v.tokens text.toList)
    (hdepth : v.depth < Draft.maxDepth) : Json.ofText text = .ok v.sorted := by
  have hvalue := Draft.toJson_draft v Draft.maxDepth hdepth
  simp only [Json.ofText, Draft.ofText_of_spells h]
  exact bind_eq_ok_iff.2 ⟨_, hvalue, rfl⟩

/-! ## Items and members -/

/-- Items are sorted one by one. -/
theorem sortedItems_eq_map (vs : List Json) : sortedItems vs = vs.map sorted := by
  induction vs with
  | nil => rw [sortedItems, List.map_nil]
  | cons v vs ih => rw [sortedItems, List.map_cons, ih]

/-- Items are no deeper than the deepest of them. -/
theorem itemDepth_le {vs : List Json} {n : Nat} (h : ∀ v ∈ vs, v.depth ≤ n) :
    itemDepth vs ≤ n := by
  induction vs with
  | nil => exact Nat.zero_le n
  | cons v vs ih =>
    rw [List.forall_mem_cons] at h
    exact max_le h.1 (ih h.2)

/-- Members are no deeper than the deepest of them. -/
theorem memberDepth_le {ms : List (String × Json)} {n : Nat} (h : ∀ m ∈ ms, m.2.depth ≤ n) :
    memberDepth ms ≤ n := by
  induction ms with
  | nil => exact Nat.zero_le n
  | cons m ms ih =>
    rw [List.forall_mem_cons] at h
    exact max_le h.1 (ih h.2)

/-! ## Values as they are written -/

/-- Every token of a value is written in one of its spellings: there are no numbers in it. -/
def Numberless (v : Json) : Prop := ∀ t ∈ v.tokens, Token.Spelling t t.written

/-- A text holds no number. -/
theorem numberless_str (s : String) : (str s).Numberless := by
  rw [Numberless, tokens, List.forall_mem_singleton]
  exact Token.spelling_str s

/-- Further items without numbers are written so that they can be read back. -/
theorem spelling_moreItems {vs : List Json} (h : ∀ v ∈ vs, v.Numberless) :
    ∀ t ∈ moreItems vs, Token.Spelling t t.written := by
  induction vs with
  | nil =>
    rw [moreItems, List.forall_mem_singleton]
    exact .closeBracket
  | cons v vs ih =>
    rw [List.forall_mem_cons] at h
    rw [moreItems, List.forall_mem_cons, List.forall_mem_append]
    exact ⟨.comma, h.1, ih h.2⟩

/-- Further members without numbers are written so that they can be read back. -/
theorem spelling_moreMembers {ms : List (String × Json)} (h : ∀ m ∈ ms, m.2.Numberless) :
    ∀ t ∈ moreMembers ms, Token.Spelling t t.written := by
  induction ms with
  | nil =>
    rw [moreMembers, List.forall_mem_singleton]
    exact .closeBrace
  | cons m ms ih =>
    rw [List.forall_mem_cons] at h
    rw [moreMembers, List.forall_mem_cons, List.forall_mem_cons, List.forall_mem_cons,
      List.forall_mem_append]
    exact ⟨.comma, Token.spelling_str m.1, .colon, h.1, ih h.2⟩

/-- A list of values without numbers holds none. -/
theorem numberless_arr {vs : List Json} (h : ∀ v ∈ vs, v.Numberless) : (arr vs).Numberless := by
  rw [Numberless, tokens, List.forall_mem_cons]
  refine ⟨.openBracket, ?_⟩
  cases vs with
  | nil =>
    rw [itemTokens, List.forall_mem_singleton]
    exact .closeBracket
  | cons v vs =>
    rw [List.forall_mem_cons] at h
    rw [itemTokens, List.forall_mem_append]
    exact ⟨h.1, spelling_moreItems h.2⟩

/-- An object of values without numbers holds none. -/
theorem numberless_obj {ms : List (String × Json)} (h : ∀ m ∈ ms, m.2.Numberless) :
    (obj ms).Numberless := by
  rw [Numberless, tokens, List.forall_mem_cons]
  refine ⟨.openBrace, ?_⟩
  cases ms with
  | nil =>
    rw [memberTokens, List.forall_mem_singleton]
    exact .closeBrace
  | cons m ms =>
    rw [List.forall_mem_cons] at h
    rw [memberTokens, List.forall_mem_cons, List.forall_mem_cons, List.forall_mem_append]
    exact ⟨Token.spelling_str m.1, .colon, h.1, spelling_moreMembers h.2⟩

/-- The text of a value without numbers spells it. -/
theorem spells_compact {v : Json} (h : v.Numberless) : Token.Spells v.tokens v.compact.toList := by
  rw [compact, String.toList_ofList]
  exact Token.spells_written h

end Json

end RunHerald
