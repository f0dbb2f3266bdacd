import Mathlib
import RunHerald.Json.Decode
import RunHerald.RunKey

/-!
# The text form of a key

`IsNamespace` and `IsName` are the grammar of the two parts of a key. A key is made of two parts
exactly if both are in the grammar (`make_eq_ok_iff`), and a text is read exactly if it consists of
two such parts with a slash between them (`parse_eq_ok_iff`).

* Lengths are judged in bytes, and before the alphabet. In the grammar they are numbers of
  characters. The two agree on every text of the alphabet, since each of its characters takes one
  byte: `utf8ByteSize_eq_length`.
* The text is cut at its first slash, and the alphabet has no slash. So a text that is read has one
  slash, and there is no other way to cut it: `text_form_is_unambiguous`.
-/

set_option autoImplicit false

namespace RunHerald

/-! ## The alphabet -/

/-- A small letter from `a` to `z`, or a digit. -/
def IsSmallOrDigit (c : Char) : Prop := 'a' ≤ c ∧ c ≤ 'z' ∨ '0' ≤ c ∧ c ≤ '9'

/-- The characters of namespaces. -/
theorem isNamespaceChar_iff {c : Char} :
    isNamespaceChar c = true ↔ IsSmallOrDigit c ∨ c = '-' := by
  simp [isNamespaceChar, IsSmallOrDigit, Char.isLower, Char.isDigit, Char.le_def]

/-- The characters of names. -/
theorem isNameChar_iff {c : Char} :
    isNameChar c = true ↔ IsSmallOrDigit c ∨ c = '-' ∨ c = '.' := by
  simp [isNameChar, isNamespaceChar_iff, or_assoc]

/-- The characters of namespaces are among those of names. -/
theorem isNameChar_of_isNamespaceChar {c : Char} (h : isNamespaceChar c = true) :
    isNameChar c = true := by
  simp [isNameChar, h]

/-- Every character of a key takes one byte. -/
theorem utf8Size_of_isNameChar {c : Char} (h : isNameChar c = true) : c.utf8Size = 1 := by
  rw [Char.utf8Size_eq_one_iff]
  obtain h | rfl | rfl := isNameChar_iff.1 h
  · simp only [IsSmallOrDigit, Char.le_def, UInt32.le_iff_toNat_le] at h ⊢
    simp at h ⊢
    omega
  · decide
  · decide

/-- A text of these characters has as many bytes as characters. -/
theorem utf8ByteSize_eq_length {s : String} (h : ∀ c ∈ s.toList, isNameChar c = true) :
    s.utf8ByteSize = s.length := by
  have hsize : ∀ cs : List Char, (∀ c ∈ cs, isNameChar c = true) →
      String.utf8Len cs = cs.length := by
    intro cs hcs
    induction cs with
    | nil => rfl
    | cons c cs ih =>
      rw [List.forall_mem_cons] at hcs
      rw [String.utf8Len_cons, ih hcs.2, utf8Size_of_isNameChar hcs.1, List.length_cons]
  rw [← String.ofList_toList (s := s), String.utf8ByteSize_ofList, String.length_ofList, hsize _ h]

/-- The slash is no character of a key. -/
theorem slash_not_mem {s : String} (h : ∀ c ∈ s.toList, isNameChar c = true) :
    '/' ∉ s.toList := by
  intro hmem
  exact absurd (h '/' hmem) (by decide)

namespace RunKey

/-! ## The grammar -/

/-- A namespace has 1 to 63 characters: small letters, digits and hyphens, but no hyphen at either
end. -/
structure IsNamespace (s : String) : Prop where
  nonempty : 1 ≤ s.length
  short : s.length ≤ 63
  alphabet : ∀ c ∈ s.toList, IsSmallOrDigit c ∨ c = '-'
  first : s.toList.head? ≠ some '-'
  last : s.toList.getLast? ≠ some '-'

/-- A name has 1 to 253 characters: small letters, digits, hyphens and dots. -/
structure IsName (s : String) : Prop where
  nonempty : 1 ≤ s.length
  short : s.length ≤ 253
  alphabet : ∀ c ∈ s.toList, IsSmallOrDigit c ∨ c = '-' ∨ c = '.'

/-- A key of a namespace and a name that are in the grammar. -/
structure Valid (key : RunKey) : Prop where
  ns : IsNamespace key.ns
  name : IsName key.name

/-- A namespace is made of characters of names. -/
theorem IsNamespace.isNameChar {s : String} (h : IsNamespace s) :
    ∀ c ∈ s.toList, isNameChar c = true :=
  fun c hc => isNameChar_of_isNamespaceChar (isNamespaceChar_iff.2 (h.alphabet c hc))

/-- A name is made of characters of names. -/
theorem IsName.isNameChar {s : String} (h : IsName s) : ∀ c ∈ s.toList, isNameChar c = true :=
  fun c hc => isNameChar_iff.2 (h.alphabet c hc)

/-- A text of at least one character is not empty. -/
theorem one_le_length_iff {s : String} : 1 ≤ s.length ↔ s.toList ≠ [] := by
  rw [← String.length_toList, Nat.one_le_iff_ne_zero, ne_eq, List.length_eq_zero_iff]

/-- The checks on a namespace pass exactly if it is in the grammar. -/
theorem checkNamespace_eq_ok_iff {s : String} : checkNamespace s = .ok () ↔ IsNamespace s := by
  have halphabet : s.toList.all isNamespaceChar = true ↔
      ∀ c ∈ s.toList, IsSmallOrDigit c ∨ c = '-' := by
    simp only [List.all_eq_true, isNamespaceChar_iff]
  constructor
  · intro h
    unfold checkNamespace at h
    split_ifs at h with hempty hlong hchars hhyphen
    rw [Bool.not_eq_false] at hchars
    rw [not_or] at hhyphen
    have hbytes : s.utf8ByteSize = s.length := utf8ByteSize_eq_length fun c hc =>
      isNameChar_of_isNamespaceChar (List.all_eq_true.1 hchars c hc)
    exact ⟨one_le_length_iff.2 hempty, hbytes ▸ Nat.not_lt.1 hlong, halphabet.1 hchars,
      hhyphen.1, hhyphen.2⟩
  · intro h
    have hbytes : s.utf8ByteSize = s.length := utf8ByteSize_eq_length h.isNameChar
    have hlong : ¬ maxNamespaceLength < s.utf8ByteSize := by
      rw [hbytes, Nat.not_lt]
      exact h.short
    have hchars : ¬ s.toList.all isNamespaceChar = false := by
      rw [Bool.not_eq_false]
      exact halphabet.2 h.alphabet
    unfold checkNamespace
    rw [if_neg (one_le_length_iff.1 h.nonempty), if_neg hlong, if_neg hchars,
      if_neg (not_or.2 ⟨h.first, h.last⟩)]

/-- The checks on a name pass exactly if it is in the grammar. -/
theorem checkName_eq_ok_iff {s : String} : checkName s = .ok () ↔ IsName s := by
  have halphabet : s.toList.all RunHerald.isNameChar = true ↔
      ∀ c ∈ s.toList, IsSmallOrDigit c ∨ c = '-' ∨ c = '.' := by
    simp only [List.all_eq_true, isNameChar_iff]
  constructor
  · intro h
    unfold checkName at h
    split_ifs at h with hempty hlong hchars
    rw [Bool.not_eq_false] at hchars
    have hbytes : s.utf8ByteSize = s.length := utf8ByteSize_eq_length (List.all_eq_true.1 hchars)
    exact ⟨one_le_length_iff.2 hempty, hbytes ▸ Nat.not_lt.1 hlong, halphabet.1 hchars⟩
  · intro h
    have hbytes : s.utf8ByteSize = s.length := utf8ByteSize_eq_length h.isNameChar
    have hlong : ¬ maxNameLength < s.utf8ByteSize := by
      rw [hbytes, Nat.not_lt]
      exact h.short
    have hchars : ¬ s.toList.all RunHerald.isNameChar = false := by
      rw [Bool.not_eq_false]
      exact halphabet.2 h.alphabet
    unfold checkName
    rw [if_neg (one_le_length_iff.1 h.nonempty), if_neg hlong, if_neg hchars]

/-- A key is made of exactly the parts that are in the grammar. -/
theorem make_eq_ok_iff {ns name : String} {key : RunKey} :
    make ns name = .ok key ↔ key.Valid ∧ key = ⟨ns, name⟩ := by
  unfold make
  constructor
  · intro h
    obtain ⟨⟨⟩, hns, h⟩ := bind_eq_ok_iff.1 h
    obtain ⟨⟨⟩, hname, h⟩ := bind_eq_ok_iff.1 h
    obtain rfl := Except.ok.inj h
    exact ⟨⟨checkNamespace_eq_ok_iff.1 hns, checkName_eq_ok_iff.1 hname⟩, rfl⟩
  · rintro ⟨⟨hns, hname⟩, rfl⟩
    rw [checkNamespace_eq_ok_iff.2 hns, checkName_eq_ok_iff.2 hname]
    rfl

/-! ## The cut -/

/-- A text is cut at a slash that has no slash before it. -/
theorem cutAtSlash_eq_some_iff {cs before after : List Char} :
    cutAtSlash cs = some (before, after) ↔ cs = before ++ '/' :: after ∧ '/' ∉ before := by
  induction cs generalizing before with
  | nil => simp [cutAtSlash]
  | cons c cs ih =>
    unfold cutAtSlash
    by_cases hc : c = '/'
    · cases before with
      | nil => simp [hc]
      | cons b before => simp +contextual [hc, eq_comm]
    · cases before with
      | nil => simp [hc]
      | cons b before =>
        have hfirst : (cutAtSlash cs).map (fun p => (c :: p.1, p.2)) = some (b :: before, after) ↔
            c = b ∧ cutAtSlash cs = some (before, after) := by
          cases cutAtSlash cs with
          | none => simp
          | some p => simp [Prod.ext_iff, and_assoc]
        rw [if_neg hc, hfirst, ih]
        constructor
        · rintro ⟨rfl, rfl, hbefore⟩
          exact ⟨rfl, by simp [hbefore, Ne.symm hc]⟩
        · rintro ⟨hcs, hbefore⟩
          obtain ⟨rfl, rfl⟩ := List.cons.inj hcs
          exact ⟨rfl, rfl, fun hmem => hbefore (List.mem_cons_of_mem _ hmem)⟩

/-- The characters of a key as it is written. -/
theorem toList_text (key : RunKey) : key.text.toList = key.ns.toList ++ '/' :: key.name.toList := by
  simp [text]

/-- A text is read exactly as the key that is in the grammar and has this text form. -/
theorem parse_eq_ok_iff {s : String} {key : RunKey} :
    parse s = .ok key ↔ key.Valid ∧ key.text = s := by
  constructor
  · intro h
    unfold parse at h
    cases hcut : cutAtSlash s.toList with
    | none => simp [hcut] at h
    | some parts =>
      simp only [hcut] at h
      obtain ⟨hvalid, rfl⟩ := make_eq_ok_iff.1 h
      refine ⟨hvalid, ?_⟩
      rw [← String.toList_inj, toList_text, String.toList_ofList, String.toList_ofList]
      exact (cutAtSlash_eq_some_iff.1 hcut).1.symm
  · rintro ⟨hvalid, rfl⟩
    have hcut : cutAtSlash key.text.toList = some (key.ns.toList, key.name.toList) :=
      cutAtSlash_eq_some_iff.2 ⟨toList_text key, slash_not_mem hvalid.ns.isNameChar⟩
    simp only [parse, hcut, String.ofList_toList]
    exact make_eq_ok_iff.2 ⟨hvalid, rfl⟩

/-- The text form of a key in the grammar has one slash. -/
theorem Valid.count_slash {key : RunKey} (h : key.Valid) : key.text.toList.count '/' = 1 := by
  rw [toList_text, List.count_append, List.count_cons_self,
    List.count_eq_zero.2 (slash_not_mem h.ns.isNameChar),
    List.count_eq_zero.2 (slash_not_mem h.name.isNameChar)]

/-- The text form of a key in the grammar cannot be cut in another way. -/
theorem Valid.eq_of_text {key : RunKey} (h : key.Valid) (other : RunKey)
    (htext : key.text = other.text) : key = other := by
  have hcount := h.count_slash
  rw [htext, toList_text, List.count_append, List.count_cons_self] at hcount
  have hns : '/' ∉ other.ns.toList := List.count_eq_zero.1 (by omega)
  have hcut : cutAtSlash key.text.toList = some (other.ns.toList, other.name.toList) :=
    cutAtSlash_eq_some_iff.2 ⟨htext ▸ toList_text other, hns⟩
  have hread : parse key.text = .ok key := parse_eq_ok_iff.2 ⟨h, rfl⟩
  simp only [parse, hcut, String.ofList_toList] at hread
  exact (make_eq_ok_iff.1 hread).2

/-- A text is read exactly if it is a namespace and a name in the grammar with a slash between them,
and the key that it is read as is written as the same text. A key is made of exactly these parts,
and is read back from its text form. So no two such keys are written alike, and a text that is read
has one slash and cannot be cut in another way. -/
theorem text_form_is_unambiguous :
    (∀ s, (∃ key, parse s = .ok key) ↔
      ∃ ns name, s = ns ++ "/" ++ name ∧ IsNamespace ns ∧ IsName name) ∧
    (∀ s key, parse s = .ok key → key.text = s) ∧
    (∀ ns name, (∃ key, make ns name = .ok key) ↔ IsNamespace ns ∧ IsName name) ∧
    (∀ ns name key, make ns name = .ok key → key = ⟨ns, name⟩ ∧ parse key.text = .ok key) ∧
    (∀ key key' : RunKey, key.Valid → key'.Valid → key.text = key'.text → key = key') ∧
    ∀ s key, parse s = .ok key → s.toList.count '/' = 1 ∧
      ∀ ns name, s = ns ++ "/" ++ name → key = ⟨ns, name⟩ := by
  refine ⟨fun s => ?_, fun s key h => ?_, fun ns name => ?_, fun ns name key h => ?_,
    fun key key' h _ => h.eq_of_text key', fun s key h => ?_⟩
  · constructor
    · rintro ⟨key, h⟩
      obtain ⟨hvalid, rfl⟩ := parse_eq_ok_iff.1 h
      exact ⟨key.ns, key.name, rfl, hvalid.ns, hvalid.name⟩
    · rintro ⟨ns, name, rfl, hns, hname⟩
      exact ⟨⟨ns, name⟩, parse_eq_ok_iff.2 ⟨⟨hns, hname⟩, rfl⟩⟩
  · exact (parse_eq_ok_iff.1 h).2
  · constructor
    · rintro ⟨key, h⟩
      obtain ⟨hvalid, rfl⟩ := make_eq_ok_iff.1 h
      exact ⟨hvalid.ns, hvalid.name⟩
    · rintro ⟨hns, hname⟩
      exact ⟨⟨ns, name⟩, make_eq_ok_iff.2 ⟨⟨hns, hname⟩, rfl⟩⟩
  · obtain ⟨hvalid, hkey⟩ := make_eq_ok_iff.1 h
    exact ⟨hkey, parse_eq_ok_iff.2 ⟨hvalid, rfl⟩⟩
  · obtain ⟨hvalid, rfl⟩ := parse_eq_ok_iff.1 h
    exact ⟨hvalid.count_slash, fun ns name htext => hvalid.eq_of_text ⟨ns, name⟩ htext⟩

/-- A name may begin with a hyphen and end with a dot, and a text with two slashes is not read. -/
theorem text_form_is_unambiguous_beside_hyphens :
    let key : RunKey := ⟨"a-1", "-.2."⟩
    (parse "a-1/-.2." = .ok key ∧
      ∀ ns name, "a-1/-.2." = ns ++ "/" ++ name → key = ⟨ns, name⟩) ∧
    ∀ other, parse "a/b/c" ≠ .ok other := by
  intro key
  obtain ⟨-, -, -, hmade, -, hread⟩ := text_form_is_unambiguous
  have hmake : make "a-1" "-.2." = .ok key := rfl
  have hparse : parse "a-1/-.2." = .ok key := (hmade _ _ _ hmake).2
  refine ⟨⟨hparse, (hread _ _ hparse).2⟩, ?_⟩
  intro other h
  exact absurd (hread _ _ h).1 (by decide)

end RunKey

end RunHerald
