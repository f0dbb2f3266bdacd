import RunHerald.Notification.Body
import RunHerald.Proofs.Run.ResultReading
import RunHerald.Proofs.Run.WrittenRecord

/-!
# Results reach the receiver as they are

Results travel in two texts: in the record of the run that they are read from, and in the body that
is posted. Both are written without numbers and nest only a few containers, so each is read back,
whatever strings it holds: `Run.ofDocument_written` and `Payload.ofBody_body`. From the record the
results are read as they were put into it, unless one of them has no name. The payload that is read
is the one that was posted, so a receiver that computes its fingerprint finds the one it carries:
`results_reach_receiver_intact`.
-/

set_option autoImplicit false

namespace RunHerald

open Json (Numberless numberless_str numberless_arr numberless_obj)

/-! ## Members whose keys go up or down -/

namespace Dictionary

variable {β : Type}

/-- Entries in ascending order of their keys are those of their dictionary. -/
theorem entries_ofList_of_ascending {l : List (String × β)}
    (h : (l.map Prod.fst).Pairwise (· < ·)) : (ofList l).entries = l :=
  congrArg entries (ofList_entries ⟨l, List.pairwise_map.1 h⟩)

/-- An entry with a key before all others comes first. -/
theorem insertEntry_of_lt {k : String} {v : β} {l : List (String × β)} (h : ∀ p ∈ l, k < p.1) :
    insertEntry k v l = (k, v) :: l := by
  cases l with
  | nil => rfl
  | cons p rest => rw [insertEntry, if_pos (h p List.mem_cons_self)]

/-- Entries in descending order of their keys are put one before the other. -/
theorem entries_foldl_insert {l : List (String × β)} (h : (l.map Prod.fst).Pairwise (· > ·))
    (d : Dictionary β) (hd : ∀ p ∈ l, ∀ q ∈ d.entries, p.1 < q.1) :
    (l.foldl (fun d p => d.insert p.1 p.2) d).entries = l.reverse ++ d.entries := by
  induction l generalizing d with
  | nil => rfl
  | cons p rest ih =>
    rw [List.map_cons, List.pairwise_cons, List.forall_mem_map] at h
    rw [List.forall_mem_cons] at hd
    -- the key of `p` is less than all that are there, and those in `rest` are less than it
    have hinsert : (d.insert p.1 p.2).entries = p :: d.entries := insertEntry_of_lt hd.1
    rw [List.foldl_cons, ih h.2, hinsert, List.reverse_cons, List.append_assoc]
    · rfl
    · intro q hq
      rw [hinsert, List.forall_mem_cons]
      exact ⟨h.1 q hq, hd.2 q hq⟩

/-- Entries in descending order of their keys are those of their dictionary backwards. -/
theorem entries_ofList_of_descending {l : List (String × β)}
    (h : (l.map Prod.fst).Pairwise (· > ·)) : (ofList l).entries = l.reverse := by
  rw [ofList, entries_foldl_insert h empty (fun _ _ _ hq => absurd hq List.not_mem_nil)]
  exact List.append_nil _

end Dictionary

/-! ## Results and keys -/

/-- A result holds no number. -/
theorem RunResult.numberless_toJson (r : RunResult) : r.toJson.Numberless := by
  apply numberless_obj
  rw [List.forall_mem_cons, List.forall_mem_singleton]
  exact ⟨numberless_str r.name, numberless_str r.value⟩

/-- The members of a result are in the order of their keys. -/
theorem RunResult.sorted_toJson (r : RunResult) : r.toJson.sorted = r.toJson := by
  have hkeys : ["name", "value"].Pairwise (· < ·) := by decide
  exact congrArg Json.obj (Dictionary.entries_ofList_of_ascending hkeys)

/-- Results hold no number. -/
theorem numberless_results (rs : List RunResult) :
    (Json.arr (rs.map RunResult.toJson)).Numberless := by
  apply numberless_arr
  rw [List.forall_mem_map]
  exact fun r _ => r.numberless_toJson

/-- Results nest two containers at most. -/
theorem depth_results (rs : List RunResult) : (Json.arr (rs.map RunResult.toJson)).depth ≤ 2 := by
  rw [Json.depth]
  refine Nat.succ_le_succ (Json.itemDepth_le ?_)
  rw [List.forall_mem_map]
  exact fun r _ => le_rfl

/-- The members of results are in order. -/
theorem sorted_results (rs : List RunResult) :
    (Json.arr (rs.map RunResult.toJson)).sorted = .arr (rs.map RunResult.toJson) := by
  rw [Json.sorted, Json.sortedItems_eq_map, List.map_map]
  exact congrArg Json.arr (List.map_congr_left fun r _ => r.sorted_toJson)

/-- The fields of a key hold no number. -/
theorem RunKey.numberless_fields (k : RunKey) : ∀ m ∈ k.fields, m.2.Numberless := by
  rw [RunKey.fields, List.forall_mem_cons, List.forall_mem_singleton]
  exact ⟨numberless_str k.ns, numberless_str k.name⟩

/-- The fields of a key in the order of their names are the key as a value. -/
theorem RunKey.sorted_fields (k : RunKey) : (Json.obj k.fields).sorted = k.toJson := by
  have hkeys : ["namespace", "name"].Pairwise (· > ·) := by decide
  exact congrArg Json.obj (Dictionary.entries_ofList_of_descending hkeys)

/-! ## The record of a run with results -/

namespace Run

/-- The metadata of a record hold no number. -/
theorem numberless_declaredMetadata (r : Run) : r.declaredMetadata.Numberless := by
  have hannotations : (annotationsToJson r.annotations).Numberless := by
    apply numberless_obj
    rw [List.forall_mem_map]
    exact fun p _ => numberless_str p.2
  have hfinalizers : (Json.arr ((TextSet.toList r.finalizers).map .str)).Numberless := by
    apply numberless_arr
    rw [List.forall_mem_map]
    exact fun s _ => numberless_str s
  apply numberless_obj
  rw [List.forall_mem_append, List.forall_mem_append, List.forall_mem_cons,
    List.forall_mem_singleton]
  refine ⟨⟨r.key.numberless_fields, hannotations, hfinalizers⟩, ?_⟩
  cases r.deletionRequestedAt with
  | none => exact fun _ hm => absurd hm List.not_mem_nil
  | some t =>
    rw [List.forall_mem_singleton]
    exact numberless_str t.text

/-- A record whose results are a list of results holds no number. -/
theorem numberless_declared (r : Run) (rs : List RunResult) :
    (r.withResults rs).declared.Numberless := by
  have hstatus : (r.withResults rs).statusToJson.Numberless :=
    numberless_obj (List.forall_mem_cons.2
      ⟨numberless_str _, List.forall_mem_singleton.2 (numberless_results rs)⟩)
  apply numberless_obj
  rw [List.forall_mem_cons, List.forall_mem_singleton]
  exact ⟨numberless_declaredMetadata _, hstatus⟩

/-- A record with results is read back from its text. -/
theorem ofDocument_written (r : Run) (rs : List RunResult) :
    ofDocument (r.withResults rs).written = .ok (r.withResults rs) := by
  have hdepth : ∀ v, (r.withResults rs).results = some v → v.depth < Draft.maxDepth - 2 := by
    intro v hv
    obtain rfl := Option.some.inj hv
    exact (depth_results rs).trans_lt (by decide)
  have hresults : (r.withResults rs).presentResults.map Json.sorted =
      some (.arr (rs.map RunResult.toJson)) := by
    rw [withResults, presentResults, Option.map_some, sorted_results]
  rw [written, ofDocument_of_spells (Json.spells_compact (numberless_declared r rs)) hdepth,
    hresults]
  rfl

/-- Results are not read from a record if one of them has no name: the first one is blamed. -/
theorem readResults_emptyName (r : Run) {rs : List RunResult}
    (h : ∃ result ∈ rs, result.name = "") :
    ∃ i, ∃ hi : i < rs.length, rs[i].name = "" ∧ (∀ j, ∀ hj : j < i, rs[j].name ≠ "") ∧
      (r.withResults rs).readResults = .error (.malformed (.emptyName i)) := by
  cases hfind : rs.findIdx? (fun result => result.name = "") with
  | none =>
    obtain ⟨result, hmem, hname⟩ := h
    simpa [hname] using List.findIdx?_eq_none_iff.1 hfind result hmem
  | some i =>
    obtain ⟨hi, hempty, hfirst⟩ := List.findIdx?_eq_some_iff_getElem.1 hfind
    refine ⟨i, hi, by simpa using hempty, fun j hj => by simpa using hfirst j hj, ?_⟩
    simp [readResults, withResults, presentResults, Json.asList, eachItem_toJson, hfind]

end Run

/-! ## Payloads -/

namespace Payload

/-- A payload is read back from its value. -/
theorem ofJson_toJson (p : Payload) : ofJson p.toJson = .ok p := by
  have htime := asTimestamp_text p.dispatchedAt
  have hfingerprint : Json.asText (.str p.fingerprint) = .ok p.fingerprint := rfl
  have hresults : Json.asList RunResult.ofJson (.arr (p.results.map RunResult.toJson)) =
      .ok p.results := eachItem_toJson p.results
  have hrun : RunKey.ofJson p.run.toJson = .ok p.run := rfl
  rw [toJson, ofJson, Json.field_of_lookup rfl htime, Json.field_of_lookup rfl hfingerprint,
    Json.field_of_lookup rfl hresults, Json.field_of_lookup rfl hrun]
  rfl

/-- A payload holds no number. -/
theorem numberless_declared (p : Payload) : p.declared.Numberless := by
  apply numberless_obj
  rw [List.forall_mem_cons, List.forall_mem_cons, List.forall_mem_cons, List.forall_mem_singleton]
  exact ⟨numberless_obj p.run.numberless_fields, numberless_results p.results,
    numberless_str p.fingerprint, numberless_str p.dispatchedAt.text⟩

/-- The text of a payload nests three containers at most. -/
theorem depth_declared (p : Payload) : p.declared.depth ≤ 3 := by
  rw [declared, Json.depth]
  refine Nat.succ_le_succ (Json.memberDepth_le ?_)
  rw [List.forall_mem_cons, List.forall_mem_cons, List.forall_mem_cons, List.forall_mem_singleton]
  exact ⟨Nat.le_succ 1, depth_results p.results, Nat.zero_le 2, Nat.zero_le 2⟩

/-- A payload in the order of the text is the same value. -/
theorem sorted_declared (p : Payload) : p.declared.sorted = p.toJson := by
  have hkeys : ["run", "results", "fingerprint", "dispatchedAt"].Pairwise (· > ·) := by decide
  have hmembers : Json.sortedMembers
      [("run", .obj p.run.fields), ("results", .arr (p.results.map RunResult.toJson)),
        ("fingerprint", .str p.fingerprint), ("dispatchedAt", .str p.dispatchedAt.text)] =
      [("run", p.run.toJson), ("results", .arr (p.results.map RunResult.toJson)),
        ("fingerprint", .str p.fingerprint), ("dispatchedAt", .str p.dispatchedAt.text)] := by
    have htext (s : String) : (Json.str s).sorted = .str s := rfl
    simp only [Json.sortedMembers, RunKey.sorted_fields, sorted_results, htext]
  rw [declared, Json.sorted, hmembers]
  exact congrArg Json.obj (Dictionary.entries_ofList_of_descending hkeys)

/-- A text that spells a payload is read as that payload. -/
theorem ofBody_of_spells {p : Payload} {text : String}
    (htext : Token.Spells p.declared.tokens text.toList) : ofBody text = .ok p := by
  have hvalue : Json.ofText text = .ok p.toJson := by
    rw [← sorted_declared]
    exact Json.ofText_of_spells htext (p.depth_declared.trans_lt (by decide))
  simp only [ofBody, hvalue, Except.mapError]
  exact bind_eq_ok_iff.2 ⟨p.toJson, rfl, by rw [ofJson_toJson]⟩

/-- A payload is read back from the text that is posted. -/
theorem ofBody_body (p : Payload) : ofBody p.body = .ok p :=
  ofBody_of_spells (Json.spells_compact p.numberless_declared)

/-- The keys stand as they are declared, and only what must be is escaped. -/
example :
    (⟨⟨"ci", "r1"⟩, [⟨"tag", "\"é\"\n"⟩], "0f", .epoch⟩ : Payload).body =
      "\x7b\"run\":\x7b\"namespace\":\"ci\",\"name\":\"r1\"\x7d," ++
        "\"results\":[\x7b\"name\":\"tag\",\"value\":\"\\\"é\\\"\\n\"\x7d],\"fingerprint\":\"0f\"," ++
        "\"dispatchedAt\":\"1970-01-01T00:00:00Z\"\x7d" := by
  decide +kernel

end Payload

/-- Results that are put into a record are there in the record that is read back, from its text and
from its value, and are read out of it in their order, unless one of them has no name: the first of
these is then blamed. The payload that is read back from its text or its value is for the same run
and has the same results in their order, the same time, and the same fingerprint, which is that of
the run and the results that were read. -/
theorem results_reach_receiver_intact (r : Run) (key : RunKey) (rs : List RunResult)
    (now : Timestamp) :
    (∃ back, Run.ofDocument (r.withResults rs).written = .ok back ∧
      Run.ofJson (r.withResults rs).toJson = .ok back ∧
      ((∀ result ∈ rs, result.name ≠ "") → back.readResults = .ok rs) ∧
      ((∃ result ∈ rs, result.name = "") →
        ∃ i, ∃ hi : i < rs.length, rs[i].name = "" ∧ (∀ j, ∀ hj : j < i, rs[j].name ≠ "") ∧
          back.readResults = .error (.malformed (.emptyName i)))) ∧
    ∃ back, Payload.ofBody (Payload.new key rs now).body = .ok back ∧
      Payload.ofJson (Payload.new key rs now).toJson = .ok back ∧
      back.run = key ∧ back.results = rs ∧ back.dispatchedAt = now ∧
      back.fingerprint = (Payload.new key rs now).fingerprint ∧
      Fingerprint.compute back.run back.results = back.fingerprint := by
  constructor
  · refine ⟨r.withResults rs, r.ofDocument_written rs, ?_, r.readResults_withResults,
      r.readResults_emptyName⟩
    rw [Run.ofJson_toJson, Run.presentResults_of_ne_null (by simp [Run.withResults])]
  · exact ⟨Payload.new key rs now, Payload.ofBody_body _, Payload.ofJson_toJson _, rfl, rfl, rfl,
      rfl, rfl⟩

/-- With a key that was never checked and strings that must be escaped, results are read back as
they are. With two more that have no name, the one after the first is blamed. -/
theorem results_reach_receiver_intact_unnamed :
    let r := Run.new ⟨"", "a/b"⟩
    let named : List RunResult := [⟨"tag\"\\\n", "é𝄞\x00"⟩]
    let unnamed : List RunResult := named ++ [⟨"", ""⟩, ⟨"", "x"⟩]
    (∃ back, Run.ofDocument (r.withResults named).written = .ok back ∧
      back.readResults = .ok named) ∧
    ∃ back, Run.ofDocument (r.withResults unnamed).written = .ok back ∧
      back.readResults = .error (.malformed (.emptyName 1)) := by
  intro r named unnamed
  have hnamed : ∀ result ∈ named, result.name ≠ "" := by decide
  have hunnamed : ∃ result ∈ unnamed, result.name = "" := by decide
  obtain ⟨⟨back, htext, -, hresults, -⟩, -⟩ :=
    results_reach_receiver_intact r r.key named .epoch
  obtain ⟨⟨back', htext', -, -, hblamed⟩, -⟩ :=
    results_reach_receiver_intact r r.key unnamed .epoch
  obtain ⟨i, hi, hempty, hfirst, herror⟩ := hblamed hunnamed
  have hone : i = 1 := by
    match i, hi, hempty, hfirst with
    | 0, _, hempty, _ => exact absurd hempty (hnamed _ List.mem_cons_self)
    | 1, _, _, _ => rfl
    | 2, _, _, hfirst => exact absurd rfl (hfirst 1 (by decide))
  exact ⟨⟨back, htext, hresults hnamed⟩, back', htext', hone ▸ herror⟩

end RunHerald
