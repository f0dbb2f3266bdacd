import RunHerald.Proofs.Json.TextReadBack
import RunHerald.Proofs.Run.RoundTrip
import RunHerald.Run.Document
import RunHerald.Run.Written

/-!
# The text of a record is read back

A record is decoded straight from its text, field after field. Each field is read as it was written,
whatever the strings in it are, and so is the record: `Run.ofDocument_of_spells`. The members of raw
results are sorted on the way, and null results are then absent.
-/

set_option autoImplicit false

namespace RunHerald

namespace Document

/-! ## Metadata -/

/-- Texts are read back from their drafts. -/
theorem texts_drafts (l : List String) : texts (Json.drafts (l.map .str)) = .ok l := by
  induction l with
  | nil => rfl
  | cons s l ih =>
    rw [List.map_cons, Json.drafts, Json.draft, texts]
    exact bind_eq_ok_iff.2 ⟨s, rfl, bind_eq_ok_iff.2 ⟨l, ih, rfl⟩⟩

/-- Named texts are read back from their drafts. -/
theorem namedTexts_memberDrafts (l : List (String × String)) :
    namedTexts (Json.memberDrafts (l.map fun p => (p.1, .str p.2))) = .ok l := by
  induction l with
  | nil => rfl
  | cons p l ih =>
    rw [List.map_cons, Json.memberDrafts, Json.draft, namedTexts]
    exact bind_eq_ok_iff.2 ⟨p.2, rfl, bind_eq_ok_iff.2 ⟨l, ih, rfl⟩⟩

/-- Annotations are read back. -/
theorem annotations_draft (d : Dictionary String) :
    annotations (annotationsToJson d).draft = .ok d := by
  rw [annotationsToJson, Json.draft, annotations]
  refine bind_eq_ok_iff.2 ⟨_, namedTexts_memberDrafts d.entries, ?_⟩
  rw [Dictionary.ofList_entries]
  rfl

/-- Finalizers are read back. -/
theorem finalizers_draft (s : TextSet) :
    finalizers (Json.arr ((TextSet.toList s).map .str)).draft = .ok s := by
  rw [Json.draft, finalizers]
  refine bind_eq_ok_iff.2 ⟨_, texts_drafts (TextSet.toList s), ?_⟩
  rw [TextSet.ofList_toList]
  rfl

/-- A point in time is read back. -/
theorem time_draft (t : Timestamp) : time (Json.str t.text).draft = .ok (some t) := by
  simp only [Json.draft, time, Timestamp.parse_text]

/-- The fields of the metadata are read one after the other, those of the key last. -/
theorem metadataMembers_declared (r : Run) (room : Nat) :
    ∃ members, r.declaredMetadata.draft = .obj members .closed ∧
      metadataMembers room ⟨none, none, none, []⟩ members =
        .ok ⟨some r.annotations, some r.finalizers, r.deletionRequestedAt.map some,
          [("namespace", .str r.key.ns), ("name", .str r.key.name)]⟩ := by
  have ha := annotations_draft r.annotations
  have hf := finalizers_draft r.finalizers
  -- the parts of the key are unknown fields here: they are kept as values and picked out later
  have hns : (Json.str r.key.ns).draft.toJson room = .ok (.str r.key.ns) := rfl
  have hname : (Json.str r.key.name).draft.toJson room = .ok (.str r.key.name) := rfl
  cases htime : r.deletionRequestedAt with
  | none =>
    refine ⟨_, by rw [Run.declaredMetadata, htime, Json.draft], ?_⟩
    simp only [RunKey.fields, List.cons_append, List.nil_append, List.append_nil, Json.memberDrafts,
      metadataMembers, String.reduceEq, ↓reduceIte, hns, hname, ha, hf]
    rfl
  | some t =>
    have ht := time_draft t
    refine ⟨_, by rw [Run.declaredMetadata, htime, Json.draft], ?_⟩
    simp only [RunKey.fields, List.cons_append, List.nil_append, Json.memberDrafts,
      metadataMembers, String.reduceEq, ↓reduceIte, hns, hname, ha, hf, ht]
    rfl

/-- The metadata of a record are read back. -/
theorem metadata_draft (r : Run) (room : Nat) (h : 1 < room) :
    metadata room r.declaredMetadata.draft =
      .ok ⟨r.key, r.annotations, r.finalizers, r.deletionRequestedAt⟩ := by
  obtain ⟨members, hdraft, hmembers⟩ := metadataMembers_declared r (room - 1)
  have htime : (r.deletionRequestedAt.map some).join = r.deletionRequestedAt := by
    cases r.deletionRequestedAt <;> rfl
  rw [hdraft, metadata, Draft.descend_of_lt h]
  refine bind_eq_ok_iff.2 ⟨_, rfl, bind_eq_ok_iff.2 ⟨_, hmembers, ?_⟩⟩
  simp only [htime]
  rfl

/-! ## Status -/

/-- A state is read back. -/
theorem completion_draft (c : Completion) : completion c.toJson.draft = .ok c := by
  rw [Completion.toJson, Json.draft, completion, Completion.ofWord_word]

/-- Raw results are read with their members sorted. -/
theorem results_draft {v : Json} (hnull : v ≠ .null) {room : Nat} (h : v.depth < room) :
    results room v.draft = .ok (some v.sorted) := by
  have hvalue := Draft.toJson_draft v room h
  cases v with
  | null => exact absurd rfl hnull
  | _ =>
    simp only [Json.draft] at hvalue ⊢
    simp only [results, hvalue, faulty, Except.map]

/-- The fields of the status are read one after the other. -/
theorem statusMembers_declared (r : Run) {room : Nat}
    (h : ∀ v, r.results = some v → v.depth < room) :
    ∃ members fields, r.statusToJson.draft = .obj members .closed ∧
      statusMembers room ⟨none, none⟩ members = .ok fields ∧
      fields.completion = some r.completion ∧
      fields.results.join = r.presentResults.map Json.sorted := by
  have hc := completion_draft r.completion
  cases hresults : r.results with
  | none =>
    refine ⟨_, ⟨some r.completion, none⟩, by rw [Run.statusToJson, hresults, Json.draft], ?_, rfl,
      ?_⟩
    · simp only [Json.memberDrafts, statusMembers, ↓reduceIte, hc]
      rfl
    · rw [Run.presentResults, hresults]
      rfl
  | some v =>
    by_cases hnull : v = .null
    · subst hnull
      refine ⟨_, ⟨some r.completion, some none⟩, by rw [Run.statusToJson, hresults, Json.draft], ?_,
        rfl, ?_⟩
      · simp only [Json.memberDrafts, statusMembers, String.reduceEq, ↓reduceIte, hc]
        rfl
      · rw [Run.presentResults, hresults]
        rfl
    · have hv := results_draft hnull (h v hresults)
      refine ⟨_, ⟨some r.completion, some (some v.sorted)⟩,
        by rw [Run.statusToJson, hresults, Json.draft], ?_, rfl, ?_⟩
      · simp only [Json.memberDrafts, statusMembers, String.reduceEq, ↓reduceIte, hc, hv]
        rfl
      · rw [Run.presentResults_of_ne_null (by simpa [hresults] using hnull), hresults]
        rfl

/-- The status of a record is read back. -/
theorem status_draft (r : Run) (room : Nat) (hroom : 1 < room)
    (h : ∀ v, r.results = some v → v.depth < room - 1) :
    status room r.statusToJson.draft = .ok ⟨r.completion, r.presentResults.map Json.sorted⟩ := by
  obtain ⟨members, fields, hdraft, hmembers, hcompletion, hresults⟩ := statusMembers_declared r h
  rw [hdraft, status, Draft.descend_of_lt hroom]
  refine bind_eq_ok_iff.2 ⟨_, rfl, bind_eq_ok_iff.2 ⟨_, hmembers, ?_⟩⟩
  simp only [hcompletion, hresults]
  rfl

end Document

/-! ## Records -/

/-- A text that spells a record is read as that record, with the members of its raw results sorted
and null results absent. -/
theorem Run.ofDocument_of_spells {r : Run} {text : String}
    (htext : Token.Spells r.declared.tokens text.toList)
    (hdepth : ∀ v, r.results = some v → v.depth < Draft.maxDepth - 2) :
    Run.ofDocument text = .ok { r with results := r.presentResults.map Json.sorted } := by
  have hmetadata := Document.metadata_draft r (Draft.maxDepth - 1) (by decide)
  have hstatus := Document.status_draft r (Draft.maxDepth - 1) (by decide) hdepth
  have hmembers : Document.runMembers (Draft.maxDepth - 1) ⟨none, none⟩
      (Json.memberDrafts [("metadata", r.declaredMetadata), ("status", r.statusToJson)]) =
      .ok ⟨some ⟨r.key, r.annotations, r.finalizers, r.deletionRequestedAt⟩,
        some ⟨r.completion, r.presentResults.map Json.sorted⟩⟩ := by
    simp only [Json.memberDrafts, Document.runMembers, String.reduceEq, ↓reduceIte, hmetadata,
      hstatus]
    rfl
  have hread : Document.run Draft.maxDepth r.declared.draft =
      .ok { r with results := r.presentResults.map Json.sorted } := by
    rw [Run.declared, Json.draft, Document.run, Draft.descend_of_lt (n := 0) (by decide)]
    exact bind_eq_ok_iff.2 ⟨_, rfl, bind_eq_ok_iff.2 ⟨_, hmembers, rfl⟩⟩
  rw [Run.ofDocument, Draft.ofText_of_spells htext, hread]
  rfl

end RunHerald
