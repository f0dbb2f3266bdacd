import Mathlib
import RunHerald.Notification.Payload

/-!
# What a fingerprint identifies

A fingerprint digests frames, one after the other: eight bytes for the length of a text and then the
text. A frame says where it ends, so two of them can be told apart whatever follows
(`selfDelimiting_frame`), and bytes that consist of frames come from one list of texts only. The
first two texts are the key, and the others are the results in pairs (`fields_injective`).

So the bytes identify the key and the results (`bytes_injective`), even if a text contains bytes
that look like frames. The digest identifies them as far as SHA-256 does:
`fingerprint_identifies_results`.
-/

set_option autoImplicit false

namespace RunHerald

/-! ## Codes that say where they end -/

/-- The words of a code can be told apart whatever follows them, at least those that are well
formed. -/
def SelfDelimiting {α β : Type} (wellFormed : α → Prop) (code : α → List β) : Prop :=
  ∀ a b, wellFormed a → wellFormed b → ∀ rest rest',
    code a ++ rest = code b ++ rest' → a = b ∧ rest = rest'

/-- A text in such a code comes from one list of words only. -/
theorem SelfDelimiting.flatMap_injective {α β : Type} {wellFormed : α → Prop} {code : α → List β}
    (h : SelfDelimiting wellFormed code) (hne : ∀ a, code a ≠ []) {xs ys : List α}
    (hxs : ∀ x ∈ xs, wellFormed x) (hys : ∀ y ∈ ys, wellFormed y)
    (heq : xs.flatMap code = ys.flatMap code) : xs = ys := by
  induction xs generalizing ys with
  | nil =>
    cases ys with
    | nil => rfl
    | cons y ys => exact absurd (List.append_eq_nil_iff.1 heq.symm).1 (hne y)
  | cons x xs ih =>
    cases ys with
    | nil => exact absurd (List.append_eq_nil_iff.1 heq).1 (hne x)
    | cons y ys =>
      rw [List.forall_mem_cons] at hxs hys
      obtain ⟨rfl, hrest⟩ := h x y hxs.1 hys.1 _ _ heq
      rw [ih hxs.2 hys.2 hrest]

/-! ## Frames -/

/-- The number of bytes of a text. -/
theorem length_utf8Bytes (s : String) : (utf8Bytes s).length = s.utf8ByteSize := rfl

/-- Texts with the same bytes are the same. -/
theorem utf8Bytes_injective : Function.Injective utf8Bytes := by
  intro s t h
  have hdata : s.toByteArray.data = t.toByteArray.data := Array.toList_inj.1 h
  exact String.toByteArray_inj.1 (ByteArray.ext hdata)

namespace Sha256

/-- A number is written in as many bytes as there are to be. -/
@[simp] theorem length_bigEndian (n x : Nat) : (bigEndian n x).length = n := by
  induction n generalizing x with
  | zero => rfl
  | succ n ih => simp [bigEndian, ih]

/-- A number is known from its bytes if there are enough of them. -/
theorem bigEndian_injective {n x y : Nat} (hx : x < 256 ^ n) (hy : y < 256 ^ n)
    (h : bigEndian n x = bigEndian n y) : x = y := by
  induction n generalizing x y with
  | zero =>
    rw [Nat.pow_zero, Nat.lt_one_iff] at hx hy
    rw [hx, hy]
  | succ n ih =>
    rw [bigEndian, bigEndian] at h
    obtain ⟨hhigh, hlow⟩ := List.append_inj' h rfl
    have hlow : UInt8.ofNat x = UInt8.ofNat y := List.singleton_inj.1 hlow
    have hmod : x % 256 = y % 256 := by simpa using congrArg UInt8.toNat hlow
    have hdiv : x / 256 = y / 256 := by
      apply ih _ _ hhigh
      · rw [Nat.div_lt_iff_lt_mul (by decide)]
        exact hx
      · rw [Nat.div_lt_iff_lt_mul (by decide)]
        exact hy
    rw [← Nat.div_add_mod x 256, ← Nat.div_add_mod y 256, hmod, hdiv]

/-- Bytes are known from their hexadecimal digits. -/
theorem hex_injective : Function.Injective hex := by
  intro bytes bytes' h
  have hdigit : ∀ i < 16, ∀ j < 16, Nat.digitChar i = Nat.digitChar j → i = j := by decide
  have hcode : SelfDelimiting (fun _ => True) fun b : UInt8 =>
      [Nat.digitChar (b.toNat / 16), Nat.digitChar (b.toNat % 16)] := by
    intro a b _ _ rest rest' h
    simp only [List.cons_append, List.nil_append, List.cons.injEq] at h
    obtain ⟨hhigh, hlow, hrest⟩ := h
    have ha := a.toNat_lt
    have hb := b.toNat_lt
    have hdiv := hdigit _ (by omega) _ (by omega) hhigh
    have hmod := hdigit _ (Nat.mod_lt _ (by decide)) _ (Nat.mod_lt _ (by decide)) hlow
    refine ⟨UInt8.toNat_inj.1 ?_, hrest⟩
    rw [← Nat.div_add_mod a.toNat 16, ← Nat.div_add_mod b.toNat 16, hdiv, hmod]
  exact hcode.flatMap_injective (fun _ => List.cons_ne_nil _ _) (fun _ _ => trivial)
    (fun _ _ => trivial) (String.ofList_injective h)

/-- Two messages that differ and have one digest. -/
def Collision (message message' : List UInt8) : Prop :=
  message ≠ message' ∧ digest message = digest message'

end Sha256

namespace Fingerprint

/-- The length of a text fits the eight bytes before it. -/
def Fits (s : String) : Prop := s.utf8ByteSize < 2 ^ 64

/-- A frame says where it ends. -/
theorem selfDelimiting_frame : SelfDelimiting Fits frame := by
  intro s t hs ht rest rest' h
  unfold frame at h
  rw [List.append_assoc, List.append_assoc] at h
  obtain ⟨hlength, h⟩ := List.append_inj h (by simp)
  have hlength : (utf8Bytes s).length = (utf8Bytes t).length :=
    Sha256.bigEndian_injective (n := 8) hs ht hlength
  obtain ⟨hbytes, hrest⟩ := List.append_inj h hlength
  exact ⟨utf8Bytes_injective hbytes, hrest⟩

/-- A framed text is not empty. -/
theorem frame_ne_nil (s : String) : frame s ≠ [] := by
  intro h
  have hlength := congrArg List.length h
  simp [frame] at hlength

/-- The texts that a fingerprint covers say where the key ends and which results there are. -/
theorem fields_injective {key key' : RunKey} {rs rs' : List RunResult}
    (h : fields key rs = fields key' rs') : key = key' ∧ rs = rs' := by
  obtain ⟨ns, name⟩ := key
  obtain ⟨ns', name'⟩ := key'
  simp only [fields, List.cons.injEq] at h
  obtain ⟨rfl, rfl, hresults⟩ := h
  have hpair : SelfDelimiting (fun _ => True) fun r : RunResult => [r.name, r.value] := by
    rintro ⟨name, value⟩ ⟨name', value'⟩ - - rest rest' h
    simp only [List.cons_append, List.nil_append, List.cons.injEq] at h
    obtain ⟨rfl, rfl, hrest⟩ := h
    exact ⟨rfl, hrest⟩
  exact ⟨rfl, hpair.flatMap_injective (fun _ => List.cons_ne_nil _ _) (fun _ _ => trivial)
    (fun _ _ => trivial) hresults⟩

/-- The bytes that are digested identify the key and the results. -/
theorem bytes_injective {key key' : RunKey} {rs rs' : List RunResult}
    (h : ∀ s ∈ fields key rs, Fits s) (h' : ∀ s ∈ fields key' rs', Fits s)
    (heq : bytes key rs = bytes key' rs') : key = key' ∧ rs = rs' :=
  fields_injective (selfDelimiting_frame.flatMap_injective frame_ne_nil h h' heq)

/-- Payloads with one fingerprint have one key and the same results, in the same order, or show two
messages with one digest. Payloads of one key and the same results always have one fingerprint,
whenever they are made. -/
theorem fingerprint_identifies_results (key key' : RunKey) (rs rs' : List RunResult)
    (h : ∀ s ∈ fields key rs, Fits s) (h' : ∀ s ∈ fields key' rs', Fits s) :
    (bytes key rs = bytes key' rs' ↔ key = key' ∧ rs = rs') ∧
    (∀ now now',
      (Payload.new key rs now).fingerprint = (Payload.new key' rs' now').fingerprint →
        (key = key' ∧ rs = rs') ∨ Sha256.Collision (bytes key rs) (bytes key' rs')) ∧
    (key = key' ∧ rs = rs' → ∀ now now',
      (Payload.new key rs now).fingerprint = (Payload.new key' rs' now').fingerprint) := by
  refine ⟨⟨bytes_injective h h', ?_⟩, ?_, ?_⟩
  · rintro ⟨rfl, rfl⟩
    rfl
  · intro now now' hfingerprint
    have hdigest := Sha256.hex_injective hfingerprint
    by_cases heq : bytes key rs = bytes key' rs'
    · exact Or.inl (bytes_injective h h' heq)
    · exact Or.inr ⟨heq, hdigest⟩
  · rintro ⟨rfl, rfl⟩ now now'
    rfl

/-- A value that looks like the frames of a further result is not taken for one. -/
theorem fingerprint_identifies_framed_value :
    let key : RunKey := ⟨"ci", "r1"⟩
    let framed := "x\x00\x00\x00\x00\x00\x00\x00\x01b\x00\x00\x00\x00\x00\x00\x00\x01y"
    let rs : List RunResult := [⟨"a", framed⟩]
    let rs' : List RunResult := [⟨"a", "x"⟩, ⟨"b", "y"⟩]
    (∀ s ∈ fields key rs, Fits s) ∧ (∀ s ∈ fields key rs', Fits s) ∧
      bytes key rs ≠ bytes key rs' ∧
      ∀ now now', (Payload.new key rs now).fingerprint = (Payload.new key rs' now').fingerprint →
        Sha256.Collision (bytes key rs) (bytes key rs') := by
  intro key framed rs rs'
  have h : ∀ s ∈ fields key rs, Fits s := by
    unfold Fits
    decide
  have h' : ∀ s ∈ fields key rs', Fits s := by
    unfold Fits
    decide
  have hne : ¬(key = key ∧ rs = rs') := by decide
  obtain ⟨hbytes, hcollision, -⟩ := fingerprint_identifies_results key key rs rs' h h'
  exact ⟨h, h', fun heq => hne (hbytes.1 heq),
    fun now now' heq => (hcollision now now' heq).resolve_left hne⟩

end Fingerprint

end RunHerald
