import RunHerald.Proofs.Json.Decoding
import RunHerald.Proofs.Time.ReadBack
import RunHerald.Run.Phase
import RunHerald.Run.Results

/-!
# Records are read back

The record of a run that was written as a JSON value is read as itself, whatever it holds, but for
results that are null: these are read as absent (`Run.ofJson_toJson`). Nothing that is done about a
record tells the two apart. A record that was read has no such results, so from then on it stays as
it is: `record_survives_wire`.
-/

set_option autoImplicit false

namespace RunHerald

open Json (lookup eachMember)

/-! ## Dictionaries -/

namespace Dictionary

variable {β : Type}

/-- Of entries with different keys, each is found that was inserted. -/
theorem get?_foldl_insert {l : List (String × β)} (h : l.Pairwise (fun a b => a.1 < b.1))
    (d : Dictionary β) (q : String) :
    (l.foldl (fun d p => d.insert p.1 p.2) d).get? q = (lookup q l).or (d.get? q) := by
  induction l generalizing d with
  | nil => rfl
  | cons p rest ih =>
    obtain ⟨hp, hrest⟩ := List.pairwise_cons.1 h
    obtain ⟨k, v⟩ := p
    rw [List.foldl_cons, ih hrest, get?_insert]
    by_cases hq : q = k
    · subst hq
      simp [lookup, lookup_eq_none_of_lt hp]
    · simp [lookup, hq]

/-- A dictionary is the one of its entries. -/
theorem ofList_entries (d : Dictionary β) : ofList d.entries = d := by
  apply ext
  intro q
  rw [ofList, get?_foldl_insert d.sorted, get?_empty, Option.or_none]
  rfl

end Dictionary

/-- A set is the one of its members. -/
theorem TextSet.ofList_toList (s : TextSet) : TextSet.ofList (TextSet.toList s) = s := by
  rw [TextSet.ofList, TextSet.toList, Dictionary.keys, List.map_map]
  exact (congrArg Dictionary.ofList (List.map_id' _)).trans (Dictionary.ofList_entries s)

/-! ## The parts of a record -/

/-- Annotations are read back. -/
theorem annotationsOfJson_toJson (d : Dictionary String) :
    annotationsOfJson (annotationsToJson d) = .ok d := by
  have hmembers : eachMember Json.asText (d.entries.map fun p => (p.1, .str p.2)) = .ok d.entries :=
    Json.eachMember_map .str (fun _ => rfl) d.entries
  simp only [annotationsOfJson, annotationsToJson, hmembers, Except.map, Dictionary.ofList_entries]

/-- A time is read back from its text. -/
theorem asTimestamp_text (t : Timestamp) : Json.asTimestamp (.str t.text) = .ok t := by
  simp only [Json.asTimestamp, Timestamp.parse_text]

/-- Finalizers are read back. -/
theorem asList_finalizers (s : TextSet) :
    Json.asList Json.asText (.arr ((TextSet.toList s).map .str)) = .ok (TextSet.toList s) :=
  Json.eachItem_map .str (fun _ => rfl) _

/-- Metadata are put together from their fields. -/
theorem Metadata.ofJson_obj {members : List (String × Json)} {a : Dictionary String}
    {tokens : List String} {time : Option (Option Timestamp)} {key : RunKey}
    (ha : Json.field members "annotations" annotationsOfJson = .ok (some a))
    (ht : Json.field members "deletionRequestedAt" (Json.asOption Json.asTimestamp) = .ok time)
    (hf : Json.field members "finalizers" (Json.asList Json.asText) = .ok (some tokens))
    (hk : RunKey.ofMembers members = .ok key) :
    Metadata.ofJson (.obj members) = .ok ⟨key, a, TextSet.ofList tokens, time.join⟩ := by
  simp only [Metadata.ofJson, ha, ht, hf, hk]
  rfl

/-- The metadata of a record are read back. -/
theorem Metadata.ofJson_toJson (r : Run) :
    Metadata.ofJson r.metadataToJson
      = .ok ⟨r.key, r.annotations, r.finalizers, r.deletionRequestedAt⟩ := by
  have ha := annotationsOfJson_toJson r.annotations
  have hf := asList_finalizers r.finalizers
  cases htime : r.deletionRequestedAt with
  | none =>
    simp only [Run.metadataToJson, htime]
    rw [Metadata.ofJson_obj (Json.field_of_lookup rfl ha) rfl (Json.field_of_lookup rfl hf) rfl,
      TextSet.ofList_toList]
    rfl
  | some t =>
    have ht : Json.asOption Json.asTimestamp (.str t.text) = .ok (some t) := by
      simp only [Json.asOption, asTimestamp_text, Except.map]
    simp only [Run.metadataToJson, htime]
    rw [Metadata.ofJson_obj (Json.field_of_lookup rfl ha) (Json.field_of_lookup rfl ht)
      (Json.field_of_lookup rfl hf) rfl, TextSet.ofList_toList]
    rfl

/-- A state is read back. -/
theorem Completion.ofJson_toJson (c : Completion) : Completion.ofJson c.toJson = .ok c := by
  rw [Completion.toJson, Completion.ofJson, Completion.ofWord_word]

/-- Results that are not null are kept as they are. -/
theorem rawResults_of_ne_null {v : Json} (h : v ≠ .null) : rawResults v = .ok (some v) := by
  cases v with
  | null => exact absurd rfl h
  | _ => rfl

/-- Null results are never read. -/
theorem ne_null_of_rawResults {v : Json} {found : Option Json} (h : rawResults v = .ok found) :
    found ≠ some .null := by
  by_cases hnull : v = .null
  · subst hnull
    obtain rfl := Except.ok.inj h
    simp
  · rw [rawResults_of_ne_null hnull] at h
    obtain rfl := Except.ok.inj h
    simpa using hnull

/-- A status is put together from its fields. -/
theorem Status.ofJson_obj {members : List (String × Json)} {c : Completion}
    {results : Option (Option Json)}
    (hc : Json.field members "completion" Completion.ofJson = .ok (some c))
    (hr : Json.field members "results" rawResults = .ok results) :
    Status.ofJson (.obj members) = .ok ⟨c, results.join⟩ := by
  simp only [Status.ofJson, hc, hr]
  rfl

/-- The status of a record is read back, but for null results. -/
theorem Status.ofJson_toJson (r : Run) :
    Status.ofJson r.statusToJson = .ok ⟨r.completion, r.presentResults⟩ := by
  have hc := Completion.ofJson_toJson r.completion
  cases hresults : r.results with
  | none =>
    simp only [Run.statusToJson, Run.presentResults, hresults]
    have habsent :
        Json.field [("completion", r.completion.toJson)] "results" rawResults = .ok none := rfl
    exact Status.ofJson_obj (Json.field_of_lookup rfl hc) habsent
  | some v =>
    simp only [Run.statusToJson, Run.presentResults, hresults]
    by_cases hnull : v = .null
    · subst hnull
      exact Status.ofJson_obj (Json.field_of_lookup rfl hc) (Json.field_of_lookup rfl rfl)
    · rw [Status.ofJson_obj (Json.field_of_lookup rfl hc)
        (Json.field_of_lookup rfl (rawResults_of_ne_null hnull))]
      split
      · rename_i h
        exact absurd (Option.some.inj h) hnull
      · rfl

/-- A status that was read has no null results. -/
theorem Status.results_ne_null {v : Json} {s : Status} (h : Status.ofJson v = .ok s) :
    s.results ≠ some .null := by
  cases v with
  | obj members =>
    obtain ⟨c, -, h⟩ := bind_eq_ok_iff.1 h
    obtain ⟨results, hresults, h⟩ := bind_eq_ok_iff.1 h
    obtain rfl := Except.ok.inj h
    obtain ⟨-, rfl⟩ | ⟨w, found, -, hfound, rfl⟩ := Json.field_eq_ok_iff.1 hresults
    · simp
    · exact ne_null_of_rawResults hfound
  | arr items =>
    obtain ⟨c, -, h⟩ := bind_eq_ok_iff.1 h
    obtain ⟨results, hresults, h⟩ := bind_eq_ok_iff.1 h
    obtain ⟨_, -, h⟩ := bind_eq_ok_iff.1 h
    obtain rfl := Except.ok.inj h
    obtain ⟨-, rfl⟩ | ⟨w, -, hfound⟩ := Json.itemOr_eq_ok_iff.1 hresults
    · simp
    · exact ne_null_of_rawResults hfound
  | _ => exact absurd h (Json.refuse_ne_ok _ _ _)

/-! ## Records -/

namespace Run

/-- A record is read back, but for null results. -/
theorem ofJson_toJson (r : Run) :
    Run.ofJson r.toJson = .ok { r with results := r.presentResults } := by
  have hm : Json.field [("metadata", r.metadataToJson), ("status", r.statusToJson)] "metadata"
      Metadata.ofJson = _ := Json.field_of_lookup rfl (Metadata.ofJson_toJson r)
  have hs : Json.field [("metadata", r.metadataToJson), ("status", r.statusToJson)] "status"
      Status.ofJson = _ := Json.field_of_lookup rfl (Status.ofJson_toJson r)
  simp only [Run.toJson, Run.ofJson, hm, hs]
  rfl

/-- A record that was read has no null results. -/
theorem results_ne_null {v : Json} {r : Run} (h : Run.ofJson v = .ok r) :
    r.results ≠ some .null := by
  cases v with
  | obj members =>
    obtain ⟨_, -, h⟩ := bind_eq_ok_iff.1 h
    obtain ⟨status, hstatus, h⟩ := bind_eq_ok_iff.1 h
    obtain ⟨_, -, h⟩ := bind_eq_ok_iff.1 h
    obtain rfl := Except.ok.inj h
    obtain ⟨-, rfl⟩ | ⟨_, s, -, hs, rfl⟩ := Json.field_eq_ok_iff.1 hstatus
    · exact Option.some_ne_none _ |>.symm
    · exact Status.results_ne_null hs
  | arr items =>
    obtain ⟨_, -, h⟩ := bind_eq_ok_iff.1 h
    obtain ⟨status, hstatus, h⟩ := bind_eq_ok_iff.1 h
    obtain ⟨_, -, h⟩ := bind_eq_ok_iff.1 h
    obtain rfl := Except.ok.inj h
    obtain ⟨-, rfl⟩ | ⟨_, -, hs⟩ := Json.itemOr_eq_ok_iff.1 hstatus
    · exact Option.some_ne_none _ |>.symm
    · exact Status.results_ne_null hs
  | _ => exact absurd h (Json.refuse_ne_ok _ _ _)

/-- Without null results, the present results are the results. -/
theorem presentResults_of_ne_null {r : Run} (h : r.results ≠ some .null) :
    r.presentResults = r.results := by
  unfold presentResults
  split
  · contradiction
  · rfl

/-- Nobody who reads results tells null results from absent ones. -/
theorem readResults_presentResults (r : Run) :
    { r with results := r.presentResults }.readResults = r.readResults := by
  have htwice : { r with results := r.presentResults }.presentResults = r.presentResults := by
    by_cases hnull : r.results = some .null
    · simp only [presentResults, hnull]
    · exact presentResults_of_ne_null (presentResults_of_ne_null hnull ▸ hnull)
  simp only [readResults, htwice]

/-- A record that is written and read again is the same, but that null results are then absent. It
is in the same phase and its results are read with the same answer. A record that was read from any
value is the same without exception. -/
theorem record_survives_wire (r : Run) :
    (∃ back, Run.ofJson r.toJson = .ok back ∧
      (r.results ≠ some .null → back = r) ∧
      (r.results = some .null → back = { r with results := none }) ∧
      (∀ markers, Phase.ofRun back markers = Phase.ofRun r markers) ∧
      back.readResults = r.readResults) ∧
    ∀ v, Run.ofJson v = .ok r → Run.ofJson r.toJson = .ok r := by
  constructor
  · refine ⟨_, r.ofJson_toJson, fun h => ?_, fun h => ?_, fun _ => rfl,
      r.readResults_presentResults⟩
    · rw [presentResults_of_ne_null h]
    · rw [presentResults, h]
  · intro v hv
    rw [ofJson_toJson, presentResults_of_ne_null (results_ne_null hv)]

/-- A record that was read from an array, with a finalizer that stands there twice, a state that is
not known and null results, is carried unchanged, and so it is if null results are put into it. -/
theorem record_from_array_survives_wire :
    let v : Json := .arr
      [.obj [("annotations", .obj [("stage", .str "release")]),
          ("finalizers", .arr [.str "audit", .str "audit"]), ("name", .str "r1"),
          ("namespace", .str "ci"), ("owner", .null)],
        .arr [.str "Skipped", .null]]
    let r : Run := ⟨⟨"ci", "r1"⟩, .ofList [("stage", "release")], .ofList ["audit", "audit"], none,
      .unknown, none⟩
    (Run.ofJson v = .ok r ∧ Run.ofJson r.toJson = .ok r) ∧
      r.results ≠ some .null ∧ (r.withRawResults .null).results = some .null ∧
      Run.ofJson (r.withRawResults .null).toJson = .ok r := by
  intro v r
  have hread : Run.ofJson v = .ok r := rfl
  refine ⟨⟨hread, (record_survives_wire r).2 v hread⟩, by simp [r], rfl, ?_⟩
  obtain ⟨back, hback, -, hnull, -⟩ := (record_survives_wire (r.withRawResults .null)).1
  rw [hback, hnull rfl]
  rfl

end Run

end RunHerald
