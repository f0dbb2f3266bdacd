import Mathlib
import RunHerald.Time.Printer
import RunHerald.Time.Reader

/-!
# Points in time are read back

A point in time that was written is read as itself: `Timestamp.parse_text`. Each part of the text is
read by its own function, which leaves what comes after the part; so there is one lemma for each
part, with any rest behind it.
-/

set_option autoImplicit false

namespace RunHerald

/-! ## Digits -/

/-- Padded digits are as many as the field is wide. -/
theorem length_paddedDigits (width n : Nat) : (paddedDigits width n).length = width := by
  induction width generalizing n with
  | zero => rfl
  | succ width ih => rw [paddedDigits, List.length_append, ih]; rfl

/-- Padded digits are digits. -/
theorem isDigit_of_mem_paddedDigits {width n : Nat} {c : Char} (h : c ∈ paddedDigits width n) :
    c.isDigit = true := by
  induction width generalizing n with
  | zero => cases h
  | succ width ih =>
    rw [paddedDigits, List.mem_append, List.mem_singleton] at h
    obtain h | rfl := h
    · exact ih h
    · simp [Nat.isDigit_digitChar, Nat.mod_lt]

/-- Padded digits stand for the number, as far as it has room in them. -/
theorem numeralValue_paddedDigits (width n : Nat) :
    numeralValue (paddedDigits width n) = n % 10 ^ width := by
  rw [numeralValue_eq_ofDigitChars]
  induction width generalizing n with
  | zero => simp [paddedDigits, Nat.mod_one]
  | succ width ih =>
    rw [paddedDigits, Nat.ofDigitChars_append, ih, Nat.ofDigitChars_cons_digitChar_of_lt_ten
      (Nat.mod_lt n (by decide)), Nat.ofDigitChars_nil, Nat.pow_succ', Nat.mod_mul]
    exact Nat.add_comm _ _

/-- No digit is blank. -/
theorem isBlank_of_isDigit {c : Char} (h : c.isDigit = true) : isBlank c = false := by
  have hrange : 48 ≤ c.toNat ∧ c.toNat ≤ 57 := by
    simpa [Char.isDigit, UInt32.le_iff_toNat_le] using h
  simp only [isBlank, Bool.or_eq_false_iff, Bool.and_eq_false_iff, decide_eq_false_iff_not,
    beq_eq_false_iff_ne, ne_eq]
  omega

/-- A text that begins with a digit has no blanks to be dropped. -/
theorem trimLeft_digits {digits : List Char} (hd : ∀ c ∈ digits, c.isDigit = true)
    (hne : digits ≠ []) (rest : List Char) : trimLeft (digits ++ rest) = digits ++ rest := by
  cases digits with
  | nil => exact absurd rfl hne
  | cons c digits =>
    rw [trimLeft, List.cons_append, List.dropWhile_cons_of_neg]
    rw [isBlank_of_isDigit (hd c (by simp))]
    simp

/-- A text does not go on with a digit. -/
def EndsDigits (rest : List Char) : Prop := rest.head?.all (fun c => !c.isDigit) = true

/-- The digits at the beginning of a text are all before the end of digits. -/
theorem span_digits {digits rest : List Char} (hd : ∀ c ∈ digits, c.isDigit = true)
    (hrest : EndsDigits rest) : (digits ++ rest).span Char.isDigit = (digits, rest) := by
  rw [List.span_eq_takeWhile_dropWhile, List.takeWhile_append_of_pos hd,
    List.dropWhile_append_of_pos hd]
  cases rest with
  | nil => simp
  | cons c rest =>
    have hc : c.isDigit = false := by simpa [EndsDigits] using hrest
    simp [hc]

/-- No month has more than 31 days. -/
theorem daysInMonth_le (year : Int) (month : Nat) : daysInMonth year month ≤ 31 := by
  unfold daysInMonth
  split
  · split <;> decide
  · split <;> decide

namespace Timestamp

/-! ## Numbers -/

/-- Digits are read up to their end. -/
theorem readDigits_append {digits rest : List Char} (hd : ∀ c ∈ digits, c.isDigit = true)
    (hne : digits ≠ []) (hrest : EndsDigits rest) :
    readDigits (digits ++ rest) = .ok (digits, rest) := by
  cases digits with
  | nil => exact absurd rfl hne
  | cons c digits =>
    have hspan := span_digits hd hrest
    rw [List.cons_append] at hspan ⊢
    simp only [readDigits, hspan]

/-- As many digits as are read at most are read whatever comes after them. -/
theorem readShort_append {digits : List Char} (hd : ∀ c ∈ digits, c.isDigit = true)
    (hne : digits ≠ []) (rest : List Char) :
    readShort digits.length (digits ++ rest) = .ok (numeralValue digits, rest) := by
  have hread : readDigits digits = .ok (digits, []) := by
    have hread := readDigits_append hd hne (show EndsDigits [] from rfl)
    rwa [List.append_nil] at hread
  simp only [readShort, List.take_left, hread, bind, Except.bind, List.drop_left]
  rfl

/-- A number is read up to the end of its digits. -/
theorem readLong_append {digits rest : List Char} (hd : ∀ c ∈ digits, c.isDigit = true)
    (hne : digits ≠ []) (hrest : EndsDigits rest) (hmax : numeralValue digits ≤ maxNumber) :
    readLong (digits ++ rest) = .ok (numeralValue digits, rest) := by
  simp only [readLong, readDigits_append hd hne hrest]
  rw [← not_lt] at hmax
  simp only [bind, Except.bind, hmax, if_false]
  rfl

/-- A number of two digits within its bounds is read. -/
theorem readField_paddedDigits {low high n : Nat} (hlow : low ≤ n) (hhigh : n ≤ high) (hn : n < 100)
    (rest : List Char) : readField low high (paddedDigits 2 n ++ rest) = .ok (n, rest) := by
  have hd : ∀ c ∈ paddedDigits 2 n, c.isDigit = true := fun c => isDigit_of_mem_paddedDigits
  have hne : paddedDigits 2 n ≠ [] := by simp [paddedDigits]
  have hread := readShort_append hd hne rest
  have hroom : n < 10 ^ 2 := hn
  rw [length_paddedDigits, numeralValue_paddedDigits, Nat.mod_eq_of_lt hroom] at hread
  have hbounds : ¬(n < low ∨ high < n) := by omega
  simp only [readField, trimLeft_digits hd hne, hread, bind, Except.bind, hbounds, if_false]
  rfl

/-- A separator is read where it stands. -/
theorem readSeparator_cons {c : Char} (hc : isBlank c = false) (rest : List Char) :
    readSeparator c (c :: rest) = .ok ((), rest) := by
  simp [readSeparator, trimLeft, hc]

/-! ## The parts of a point in time -/

/-- A year within the bounds is let through. -/
theorem boundYear_of_le {year : Int} (hmin : minYear ≤ year) (hmax : year ≤ maxYear)
    (rest : List Char) : boundYear year rest = .ok (year, rest) := by
  unfold minYear at hmin
  unfold maxYear at hmax
  exact if_pos (by omega)

/-- A year that begins with a digit has four of them. -/
theorem readYear_of_digits {digits : List Char} (hd : ∀ c ∈ digits, c.isDigit = true)
    (hlength : digits.length = 4) (hmin : minYear ≤ (numeralValue digits : Int))
    (hmax : (numeralValue digits : Int) ≤ maxYear) (rest : List Char) :
    readYear (digits ++ rest) = .ok ((numeralValue digits : Int), rest) := by
  have hne : digits ≠ [] := by
    rintro rfl
    cases hlength
  have hshort := readShort_append hd hne rest
  rw [hlength] at hshort
  unfold readYear
  rw [trimLeft_digits hd hne]
  -- neither sign is a digit
  split
  · rename_i tail heq
    cases digits with
    | nil => exact absurd rfl hne
    | cons c digits =>
      obtain ⟨rfl, -⟩ := List.cons.inj heq
      exact absurd (hd '-' (by simp)) (by decide)
  · rename_i tail heq
    cases digits with
    | nil => exact absurd rfl hne
    | cons c digits =>
      obtain ⟨rfl, -⟩ := List.cons.inj heq
      exact absurd (hd '+' (by simp)) (by decide)
  · simp only [hshort, bind, Except.bind, boundYear_of_le hmin hmax]

/-- The digits of a year that has a sign. -/
def signedYearDigits (n : Nat) : List Char :=
  if n ≤ 9999 then paddedDigits 4 n else Nat.toDigits 10 n

/-- The digits of a year with a sign are digits. -/
theorem isDigit_of_mem_signedYearDigits {n : Nat} {c : Char} (h : c ∈ signedYearDigits n) :
    c.isDigit = true := by
  unfold signedYearDigits at h
  split at h
  · exact isDigit_of_mem_paddedDigits h
  · exact Nat.isDigit_of_mem_toDigits (by decide) (by decide) h

/-- A year with a sign has digits. -/
theorem signedYearDigits_ne_nil (n : Nat) : signedYearDigits n ≠ [] := by
  unfold signedYearDigits
  split
  · simp [paddedDigits]
  · exact Nat.toDigits_ne_nil

/-- The digits of a year with a sign are read back as its number. -/
theorem numeralValue_signedYearDigits (n : Nat) : numeralValue (signedYearDigits n) = n := by
  unfold signedYearDigits
  split
  · rw [numeralValue_paddedDigits]
    exact Nat.mod_eq_of_lt (by omega)
  · rw [numeralValue_eq_ofDigitChars, Nat.ofDigitChars_toDigits (by decide) (by decide)]

/-- A year outside the four digits is written with a sign. -/
theorem yearText_of_signed {year : Int} (h : ¬(0 ≤ year ∧ year ≤ 9999)) :
    yearText year = (if year < 0 then '-' else '+') :: signedYearDigits year.natAbs :=
  if_neg h

/-- The digits of a year with a sign are read up to their end. -/
theorem readLong_signedYearDigits {n : Nat} (hn : n ≤ 262143) {rest : List Char}
    (hrest : EndsDigits rest) : readLong (signedYearDigits n ++ rest) = .ok (n, rest) := by
  have hmax : numeralValue (signedYearDigits n) ≤ maxNumber := by
    rw [numeralValue_signedYearDigits]
    exact hn.trans (by decide)
  rw [readLong_append (fun c => isDigit_of_mem_signedYearDigits) (signedYearDigits_ne_nil n) hrest
    hmax, numeralValue_signedYearDigits]

/-- A year of the calendar is read. -/
theorem readYear_yearText {year : Int} (hmin : minYear ≤ year) (hmax : year ≤ maxYear)
    {rest : List Char} (hrest : EndsDigits rest) :
    readYear (yearText year ++ rest) = .ok (year, rest) := by
  have hlow : -262143 ≤ year := hmin
  have hhigh : year ≤ 262142 := hmax
  by_cases hplain : 0 ≤ year ∧ year ≤ 9999
  · have hvalue : (numeralValue (paddedDigits 4 year.toNat) : Int) = year := by
      rw [numeralValue_paddedDigits, Nat.mod_eq_of_lt (by omega)]
      omega
    have hread := readYear_of_digits (fun c => isDigit_of_mem_paddedDigits)
      (length_paddedDigits 4 year.toNat) (by rwa [hvalue]) (by rwa [hvalue]) rest
    rw [yearText, if_pos hplain, hread, hvalue]
  · have hlong := readLong_signedYearDigits (n := year.natAbs) (by omega) hrest
    rw [yearText_of_signed hplain]
    by_cases hneg : year < 0
    · have habs : -(year.natAbs : Int) = year := by omega
      have htrim : trimLeft ('-' :: (signedYearDigits year.natAbs ++ rest))
          = '-' :: (signedYearDigits year.natAbs ++ rest) := rfl
      simp only [hneg, if_true, List.cons_append, readYear, htrim, hlong, bind, Except.bind, habs,
        boundYear_of_le hmin hmax]
    · have habs : (year.natAbs : Int) = year := by omega
      have htrim : trimLeft ('+' :: (signedYearDigits year.natAbs ++ rest))
          = '+' :: (signedYearDigits year.natAbs ++ rest) := rfl
      simp only [hneg, if_false, List.cons_append, readYear, htrim, hlong, bind, Except.bind, habs,
        boundYear_of_le hmin hmax]

/-- A fraction that is written with so many digits is read. -/
theorem readFraction_paddedDigits (width : Nat) {nanos : Nat} (hpos : 0 < width)
    (hwidth : width ≤ 9) (hnanos : nanos < 10 ^ 9) (hdvd : 10 ^ (9 - width) ∣ nanos)
    {rest : List Char} (hrest : EndsDigits rest) :
    readFraction ('.' :: (paddedDigits width (nanos / 10 ^ (9 - width)) ++ rest))
      = .ok (nanos, rest) := by
  have hd : ∀ c ∈ paddedDigits width (nanos / 10 ^ (9 - width)), c.isDigit = true :=
    fun c => isDigit_of_mem_paddedDigits
  have hlength := length_paddedDigits width (nanos / 10 ^ (9 - width))
  have hne : paddedDigits width (nanos / 10 ^ (9 - width)) ≠ [] := by
    intro hnil
    rw [hnil] at hlength
    exact hpos.ne hlength
  have hroom : nanos / 10 ^ (9 - width) < 10 ^ width := by
    rw [Nat.div_lt_iff_lt_mul (Nat.pow_pos (by decide)), ← Nat.pow_add, Nat.add_sub_cancel' hwidth]
    exact hnanos
  have htake : (paddedDigits width (nanos / 10 ^ (9 - width))).take 9
      = paddedDigits width (nanos / 10 ^ (9 - width)) := by
    rw [List.take_of_length_le (by omega)]
  have hvalue : numeralValue (paddedDigits width (nanos / 10 ^ (9 - width)))
      * Nat.pow 10 (9 - width) = nanos := by
    rw [numeralValue_paddedDigits, Nat.mod_eq_of_lt hroom]
    exact Nat.div_mul_cancel hdvd
  simp only [readFraction, readDigits_append hd hne hrest, bind, Except.bind, htake, hlength, hvalue]
  rfl

/-- A fraction of a second is read. -/
theorem readFraction_fractionText {nanos : Nat} (hnanos : nanos < 1000000000) :
    readFraction (fractionText nanos ++ ['Z']) = .ok (nanos, ['Z']) := by
  unfold fractionText
  split
  · rename_i hzero
    rw [hzero]
    rfl
  · split
    · rename_i hmod
      exact readFraction_paddedDigits 3 (by decide) (by decide) hnanos
        (Nat.dvd_of_mod_eq_zero hmod) rfl
    · split
      · rename_i hmod
        exact readFraction_paddedDigits 6 (by decide) (by decide) hnanos
          (Nat.dvd_of_mod_eq_zero hmod) rfl
      · have hread := readFraction_paddedDigits 9 (by decide) (by decide) hnanos (Nat.one_dvd _)
          (show EndsDigits ['Z'] from rfl)
        rwa [Nat.sub_self, Nat.pow_zero, Nat.div_one] at hread

/-- A date is read back from its text. -/
theorem readDate_text (d : Date) (rest : List Char) :
    readDate (yearText d.year ++ '-' :: (paddedDigits 2 d.month ++ '-' ::
      (paddedDigits 2 d.day ++ rest))) = .ok (⟨d.year, d.month, d.day⟩, rest) := by
  have hdays : d.day ≤ 31 := d.day_le.trans (daysInMonth_le _ _)
  have hyear := fun rest : List Char =>
    readYear_yearText d.year_ge d.year_le (show EndsDigits ('-' :: rest) from rfl)
  have hsep := fun rest => readSeparator_cons (c := '-') rfl rest
  have hmonth := readField_paddedDigits d.month_pos d.month_le (by have := d.month_le; omega)
  have hday := readField_paddedDigits d.day_pos hdays (by omega)
  simp only [readDate, hyear, hsep, hmonth, hday, bind, Except.bind]
  rfl

/-- A time of the day is read back from its text. -/
theorem readTime_text (t : Timestamp) :
    readTime (paddedDigits 2 t.hour ++ ':' :: (paddedDigits 2 t.minute ++ ':' ::
      (paddedDigits 2 t.second ++ (fractionText t.nanos ++ ['Z']))))
      = .ok (⟨t.hour, t.minute, t.second, t.nanos⟩, ['Z']) := by
  have hhour := t.hour_lt
  have hminute := t.minute_lt
  have hsep := fun rest => readSeparator_cons (c := ':') rfl rest
  have hsecond := t.second_le
  have hh := readField_paddedDigits (Nat.zero_le t.hour) (show t.hour ≤ 23 by omega) (by omega)
  have hm := readField_paddedDigits (Nat.zero_le t.minute) (show t.minute ≤ 59 by omega) (by omega)
  have hs := readField_paddedDigits (Nat.zero_le t.second) hsecond (by omega)
  simp only [readTime, hh, hm, hs, hsep, readFraction_fractionText t.nanos_lt, bind, Except.bind]
  rfl

/-- The fields of a timestamp resolve to the timestamp. -/
theorem resolve_self (t : Timestamp) :
    resolve ⟨t.date.year, t.date.month, t.date.day⟩ ⟨t.hour, t.minute, t.second, t.nanos⟩ 0
      = .ok t := by
  simp [resolve, Date.make?_self, ofLocal?_zero]

/-- A point in time that was written is read as itself. -/
theorem parse_text (t : Timestamp) : Timestamp.parse t.text = .ok t := by
  have htext : t.text.toList = yearText t.date.year ++ '-' :: (paddedDigits 2 t.date.month ++ '-' ::
      (paddedDigits 2 t.date.day ++ 'T' :: (paddedDigits 2 t.hour ++ ':' ::
        (paddedDigits 2 t.minute ++ ':' :: (paddedDigits 2 t.second ++
          (fractionText t.nanos ++ ['Z'])))))) := by
    simp [text, List.append_assoc]
  have hmiddle : ∀ rest, readMiddle ('T' :: rest) = .ok ((), rest) := fun _ => rfl
  have hoffset : readOffset ['Z'] = .ok (0, []) := rfl
  simp only [parse, htext, readDate_text, hmiddle, readTime_text, hoffset, bind, Except.bind,
    resolve_self]
  rfl

end Timestamp

end RunHerald
