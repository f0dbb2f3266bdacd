import Mathlib
import RunHerald.Settings

/-!
# What settings are loaded from

Settings that were loaded have got each of their fields from the reader of its own variable:
`load_eq_ok_iff`. What a reader gives is said by a relation between the text that the variable is
set to and the value (`Own`): numerals stand for numbers, and so on. So what a reader makes sure of
holds of the field. A number of seconds is at least one (`one_le_seconds`), and with it both delays
before a retry. The number of conflicts to put up with is the numeral that stands in its variable
(`LoadedFrom.readNumeral_eq`).
-/

set_option autoImplicit false

namespace RunHerald

/-! ## Numerals -/

/-- A text stands for a number: decimal digits, with or without a plus sign before them. -/
def StandsFor (text : String) (n : Nat) : Prop :=
  ∃ digits : List Char, digits ≠ [] ∧ (∀ c ∈ digits, c.isDigit = true) ∧
    (text.toList = digits ∨ text.toList = '+' :: digits) ∧ Nat.ofDigitChars 10 digits 0 = n

/-- The digits of a numeral are what is left without its sign. -/
theorem numeralDigits_eq {cs digits : List Char} (hd : ∀ c ∈ digits, c.isDigit = true)
    (h : cs = digits ∨ cs = '+' :: digits) : numeralDigits cs = digits := by
  obtain rfl | rfl := h
  · unfold numeralDigits
    split
    -- a plus sign is no digit
    · exact absurd (hd '+' (by simp)) (by decide)
    · rfl
  · rfl

/-- A numeral is its digits, perhaps after a plus sign. -/
theorem eq_or_eq_of_numeralDigits (cs : List Char) :
    cs = numeralDigits cs ∨ cs = '+' :: numeralDigits cs := by
  unfold numeralDigits
  split
  · exact Or.inr rfl
  · exact Or.inl rfl

/-- The numerals that are read are those that stand for a number within the bound. -/
theorem readNumeral_eq_some_iff {bound n : Nat} {text : String} :
    readNumeral bound text = some n ↔ StandsFor text n ∧ n ≤ bound := by
  constructor
  · intro h
    simp only [readNumeral] at h
    split at h
    · rename_i hdigits
      split at h
      · rename_i hle
        obtain rfl := Option.some.inj h
        refine ⟨⟨_, hdigits.1, List.all_eq_true.1 hdigits.2, eq_or_eq_of_numeralDigits _, ?_⟩, hle⟩
        exact (numeralValue_eq_ofDigitChars _).symm
      · cases h
    · cases h
  · rintro ⟨⟨digits, hne, hd, htext, rfl⟩, hle⟩
    rw [← numeralValue_eq_ofDigitChars] at hle ⊢
    simp only [readNumeral, numeralDigits_eq hd htext]
    rw [if_pos ⟨hne, List.all_eq_true.2 hd⟩, if_pos hle]

namespace Settings

/-! ## What each reader gives -/

/-- A value is what the text of a variable stands for, or the default of one that is unset. -/
def Own {α : Type} (text : Option String) (default : α) (reads : String → α → Prop) (a : α) :
    Prop :=
  match text with
  | none => a = default
  | some raw => reads raw a

/-- A text stands for itself, unless it is empty. -/
def IsText (raw s : String) : Prop := raw ≠ "" ∧ s = raw

/-- A text stands for a number of 32 bits. -/
def IsCount (raw : String) (n : UInt32) : Prop := StandsFor raw n.toNat

/-- A text stands for a number of seconds, at least one, in 64 bits. -/
def IsSeconds (raw : String) (d : Duration) : Prop :=
  ∃ n, StandsFor raw n ∧ 1 ≤ n ∧ n < 2 ^ 64 ∧ d = .ofSeconds n

/-- A text is the name of a format, in letters of either case. -/
def IsFormat (raw : String) (f : LogFormat) : Prop := raw.toLower = f.label

/-- An empty text is no token. -/
def IsToken (raw : String) (t : Option Secret) : Prop := t = if raw = "" then none else some ⟨raw⟩

section Own

variable {α : Type} {d a : α} {reads : String → α → Prop}

/-- A variable that is not set stands for its default. -/
@[simp] theorem own_none : Own none d reads a ↔ a = d := Iff.rfl

/-- A variable that is set is read as its own text. -/
@[simp] theorem own_some {raw : String} : Own (some raw) d reads a ↔ reads raw a := Iff.rfl

end Own

/-- A format is named in letters of any case. -/
theorem isFormat_iff {raw : String} {f : LogFormat} :
    IsFormat raw f ↔ LogFormat.lower raw = f.label.toList := by
  rw [IsFormat, String.toLower, ← String.toList_inj, String.toList_map, LogFormat.lower]

/-- A format is read from its names only. -/
theorem parse_eq_ok_iff {raw : String} {f : LogFormat} :
    LogFormat.parse raw = .ok f ↔ IsFormat raw f := by
  rw [isFormat_iff]
  unfold LogFormat.parse
  split
  · rename_i hjson
    cases f <;> simp [hjson, LogFormat.label]
  · rename_i hjson
    split
    · rename_i hpretty
      cases f <;> simp [hpretty, LogFormat.label]
    · rename_i hpretty
      cases f with
      | json => exact iff_of_false nofun hjson
      | pretty => exact iff_of_false nofun hpretty

section Readers

variable {vars : Variables} {v : Variable}

/-- A text is read unless it is empty. -/
theorem nonEmpty_eq_ok_iff {default s : String} :
    nonEmpty vars v default = .ok s ↔ Own (vars v) default IsText s := by
  unfold nonEmpty IsText
  cases vars v with
  | none => simp [eq_comm]
  | some raw => by_cases h : raw = "" <;> simp [h, eq_comm]

/-- A number of retries is read from its numerals only. -/
theorem conflictRetries_eq_ok_iff {n : UInt32} :
    conflictRetries vars = .ok n ↔ Own (vars .maxConflictRetries) 3 IsCount n := by
  unfold conflictRetries
  cases vars .maxConflictRetries with
  | none => simp [eq_comm]
  | some raw =>
    have hread : IsCount raw n ↔ readNumeral (UInt32.size - 1) raw = some n.toNat := by
      rw [readNumeral_eq_some_iff, IsCount, iff_self_and]
      exact fun _ => Nat.le_pred_of_lt n.toNat_lt_size
    simp only [own_some, hread]
    cases hm : readNumeral (UInt32.size - 1) raw with
    | none => simp
    | some m =>
      have hlt : m < UInt32.size := Nat.lt_of_le_pred (by decide) (readNumeral_eq_some_iff.1 hm).2
      simp only [Except.ok.injEq, ← UInt32.toNat_inj, UInt32.toNat_ofNat_of_lt' hlt,
        Option.some.injEq]

/-- Seconds are read from their numerals only. -/
theorem seconds_eq_ok_iff {default : Nat} {d : Duration} :
    seconds vars v default = .ok d ↔ Own (vars v) (.ofSeconds default) IsSeconds d := by
  unfold seconds
  cases vars v with
  | none => simp [eq_comm]
  | some raw =>
    have hread : IsSeconds raw d ↔
        ∃ n, readNumeral (UInt64.size - 1) raw = some n ∧ 1 ≤ n ∧ d = .ofSeconds n := by
      have hbound (n : Nat) : n ≤ UInt64.size - 1 ↔ n < 2 ^ 64 :=
        Nat.le_sub_one_iff_lt (by decide)
      simp only [IsSeconds, readNumeral_eq_some_iff, and_assoc, hbound]
      exact exists_congr fun n => and_congr_right fun _ => and_left_comm
    simp only [own_some, hread]
    cases readNumeral (UInt64.size - 1) raw with
    | none => simp
    | some n => cases n <;> simp [eq_comm]

/-- The format of the log is read from its variable. -/
theorem format_eq_ok_iff {f : LogFormat} :
    format vars = .ok f ↔ Own (vars .logFormat) .pretty IsFormat f := by
  unfold format
  cases vars .logFormat with
  | none => simp [eq_comm]
  | some raw =>
    simp only [own_some, ← parse_eq_ok_iff]
    cases LogFormat.parse raw <;> simp

/-- A token is read unless it is empty. -/
theorem eq_token_iff {t : Option Secret} :
    t = token vars ↔ Own (vars .webhookToken) none IsToken t := by
  unfold token
  cases vars .webhookToken <;> rfl

end Readers

/-! ## Settings that were loaded -/

variable {vars : Variables} {s : Settings}

/-- Each field of the settings is what the reader of its own variable gives. -/
structure LoadedFrom (vars : Variables) (s : Settings) : Prop where
  guardToken : nonEmpty vars .guardToken Markers.standard.guardToken = .ok s.markers.guardToken
  markerKey : nonEmpty vars .markerKey Markers.standard.markerKey = .ok s.markers.markerKey
  markerValue : nonEmpty vars .markerValue Markers.standard.markerValue = .ok s.markers.markerValue
  maxConflictRetries : conflictRetries vars = .ok s.maxConflictRetries
  retryBackoff : seconds vars .retryBackoff 30 = .ok s.retryBackoff
  rejectedBackoff : seconds vars .rejectedBackoff 300 = .ok s.rejectedBackoff
  webhook : webhookConfig vars = .ok s.webhook
  logFormat : format vars = .ok s.logFormat

/-- Loading succeeds exactly if every reader does, and puts their values together. -/
theorem load_eq_ok_iff : load vars = .ok s ↔ LoadedFrom vars s := by
  constructor
  · intro h
    obtain ⟨guardToken, hguardToken, h⟩ := bind_eq_ok_iff.1 h
    obtain ⟨markerKey, hmarkerKey, h⟩ := bind_eq_ok_iff.1 h
    obtain ⟨markerValue, hmarkerValue, h⟩ := bind_eq_ok_iff.1 h
    obtain ⟨retries, hretries, h⟩ := bind_eq_ok_iff.1 h
    obtain ⟨retryBackoff, hretryBackoff, h⟩ := bind_eq_ok_iff.1 h
    obtain ⟨rejectedBackoff, hrejectedBackoff, h⟩ := bind_eq_ok_iff.1 h
    obtain ⟨webhook, hwebhook, h⟩ := bind_eq_ok_iff.1 h
    obtain ⟨logFormat, hlogFormat, h⟩ := bind_eq_ok_iff.1 h
    obtain rfl := Except.ok.inj h
    exact ⟨hguardToken, hmarkerKey, hmarkerValue, hretries, hretryBackoff, hrejectedBackoff,
      hwebhook, hlogFormat⟩
  · intro h
    unfold load
    rw [h.guardToken, h.markerKey, h.markerValue, h.maxConflictRetries, h.retryBackoff,
      h.rejectedBackoff, h.webhook, h.logFormat]
    rfl

/-- The number of conflicts to put up with is the numeral that its variable is set to. -/
theorem LoadedFrom.readNumeral_eq (h : LoadedFrom vars s) {raw : String}
    (hraw : vars .maxConflictRetries = some raw) :
    readNumeral (UInt32.size - 1) raw = some s.maxConflictRetries.toNat := by
  have hcount := conflictRetries_eq_ok_iff.1 h.maxConflictRetries
  rw [hraw, own_some] at hcount
  exact readNumeral_eq_some_iff.2 ⟨hcount, Nat.le_pred_of_lt s.maxConflictRetries.toNat_lt_size⟩

/-- A number of seconds is at least one, as its default is. -/
theorem one_le_seconds {v : Variable} {default : Nat} {d : Duration}
    (h : seconds vars v default = .ok d) (hdefault : 1 ≤ default) : 1 ≤ d.seconds := by
  rw [seconds_eq_ok_iff] at h
  cases hv : vars v with
  | none =>
    rw [hv, own_none] at h
    exact h ▸ hdefault
  | some raw =>
    rw [hv, own_some] at h
    obtain ⟨n, -, hone, -, rfl⟩ := h
    exact hone

/-- The delay after a failure is at least one second. -/
theorem LoadedFrom.one_le_retryBackoff (h : LoadedFrom vars s) : 1 ≤ s.retryBackoff.seconds :=
  one_le_seconds h.retryBackoff (by decide)

/-- The delay after a refusal is at least one second. -/
theorem LoadedFrom.one_le_rejectedBackoff (h : LoadedFrom vars s) :
    1 ≤ s.rejectedBackoff.seconds :=
  one_le_seconds h.rejectedBackoff (by decide)

end Settings

end RunHerald
