import Mathlib.Data.List.Forall2
import RunHerald.Proofs.Json.Decoding
import RunHerald.Run.Results

/-!
# What counts as results

`Denotes` is the grammar of one result: an object with a text as its name and a text as its value,
whatever else it holds, or an array of just these two texts. `RunResult.ofJson_eq_ok_iff` says that
the reader of a result accepts this and nothing else.

The results of a run are a list of such values without an empty name, in the record of a run that
has succeeded. `results_read_by_grammar` says so of `Run.readResults`, and which of the other
answers is given when.
-/

set_option autoImplicit false

namespace RunHerald

open Json (lookup eachItem asList)

/-- A value stands for a result. -/
inductive Json.Denotes : Json → RunResult → Prop
  | object (members : List (String × Json)) (name value : String)
    (hname : lookup "name" members = some (.str name))
    (hvalue : lookup "value" members = some (.str value)) : Denotes (.obj members) ⟨name, value⟩
  | pair (name value : String) : Denotes (.arr [.str name, .str value]) ⟨name, value⟩

/-- A list of at most two items that has a first and a second has just these. -/
theorem eq_pair_of_getElem? {α : Type} {items : List α} {a b : α} (h₀ : items[0]? = some a)
    (h₁ : items[1]? = some b) (hlength : items.length ≤ 2) : items = [a, b] := by
  match items with
  | [] => simp at h₀
  | [_] => simp at h₁
  | [x, y] => simp_all
  | _ :: _ :: _ :: _ => simp at hlength

/-- The reader of a result accepts the values that stand for one. -/
theorem RunResult.ofJson_eq_ok_iff {v : Json} {r : RunResult} :
    RunResult.ofJson v = .ok r ↔ v.Denotes r := by
  constructor
  · intro h
    cases v with
    | obj members =>
      obtain ⟨name?, hname?, h⟩ := bind_eq_ok_iff.1 h
      obtain ⟨value?, hvalue?, h⟩ := bind_eq_ok_iff.1 h
      obtain ⟨name, hname, h⟩ := bind_eq_ok_iff.1 h
      obtain ⟨value, hvalue, h⟩ := bind_eq_ok_iff.1 h
      obtain rfl := Except.ok.inj h
      obtain ⟨v, hv, htext⟩ := Json.lookup_of_field_of_need hname? hname
      obtain ⟨w, hw, htext'⟩ := Json.lookup_of_field_of_need hvalue? hvalue
      rw [Json.asText_eq_ok_iff] at htext htext'
      exact .object members name value (htext ▸ hv) (htext' ▸ hw)
    | arr items =>
      obtain ⟨name, hname, h⟩ := bind_eq_ok_iff.1 h
      obtain ⟨value, hvalue, h⟩ := bind_eq_ok_iff.1 h
      obtain ⟨_, hlength, h⟩ := bind_eq_ok_iff.1 h
      obtain rfl := Except.ok.inj h
      simp only [Json.item_eq_ok_iff, Json.asText_eq_ok_iff] at hname hvalue
      obtain ⟨_, hfirst, rfl⟩ := hname
      obtain ⟨_, hsecond, rfl⟩ := hvalue
      rw [Json.noMore_eq_ok_iff] at hlength
      obtain rfl : items = [.str name, .str value] := eq_pair_of_getElem? hfirst hsecond hlength
      exact .pair name value
    | _ => exact absurd h (Json.refuse_ne_ok _ _ _)
  · rintro (⟨members, name, value, hname, hvalue⟩ | ⟨name, value⟩)
    · have hfirst : Json.field members "name" Json.asText = .ok (some name) :=
        Json.field_of_lookup hname rfl
      have hsecond : Json.field members "value" Json.asText = .ok (some value) :=
        Json.field_of_lookup hvalue rfl
      simp only [RunResult.ofJson, hfirst, hsecond]
      rfl
    · rfl

/-- The reader of a list of results accepts the lists of such values. -/
theorem RunResult.asList_eq_ok_iff {v : Json} {rs : List RunResult} :
    asList RunResult.ofJson v = .ok rs ↔
      ∃ items, v = .arr items ∧ List.Forall₂ Json.Denotes items rs := by
  simp only [Json.asList_eq_ok_iff, RunResult.ofJson_eq_ok_iff]

/-! ## The four answers -/

namespace Run

/-- No results are present if there are none or they are null. -/
theorem presentResults_eq_none_iff (run : Run) :
    run.presentResults = none ↔ run.results = none ∨ run.results = some .null := by
  unfold presentResults
  split <;> simp_all

/-- Results are present if there are some that are not null. -/
theorem presentResults_eq_some_iff (run : Run) (v : Json) :
    run.presentResults = some v ↔ run.results = some v ∧ v ≠ .null := by
  unfold presentResults
  split
  · simp_all
  · rename_i hnull
    refine ⟨fun h => ⟨h, ?_⟩, And.left⟩
    rintro rfl
    exact hnull h

/-- The answer to a request for the results of a run, with the reason for it. -/
inductive Answers (run : Run) : Except ResultsError (List RunResult) → Prop
  | notSucceeded (h : run.completion ≠ .succeeded) :
    Answers run (.error (.notSucceeded run.completion))
  | missing (h : run.completion = .succeeded) (hv : run.presentResults = none) :
    Answers run (.error .missing)
  | undecodable (h : run.completion = .succeeded) (v : Json) (e : DecodeError)
    (hv : run.presentResults = some v)
    (hno : ∀ items rs, v = .arr items → ¬List.Forall₂ Json.Denotes items rs) :
    Answers run (.error (.malformed (.undecodable e)))
  | emptyName (h : run.completion = .succeeded) (items : List Json) (rs : List RunResult) (i : Nat)
    (hv : run.results = some (.arr items)) (hd : List.Forall₂ Json.Denotes items rs)
    (hi : rs.findIdx? (fun r => r.name = "") = some i) :
    Answers run (.error (.malformed (.emptyName i)))
  | read (h : run.completion = .succeeded) (items : List Json) (rs : List RunResult)
    (hv : run.results = some (.arr items)) (hd : List.Forall₂ Json.Denotes items rs)
    (hnames : rs.findIdx? (fun r => r.name = "") = none) : Answers run (.ok rs)

/-- What is read of the results of a run answers its record. -/
theorem answers_readResults (run : Run) : run.Answers run.readResults := by
  unfold readResults
  split
  · rename_i h
    exact .notSucceeded h
  · rename_i h
    rw [ne_eq, not_not] at h
    cases hv : run.presentResults with
    | none => exact .missing h hv
    | some v =>
      simp only
      cases hread : asList RunResult.ofJson v with
      | error e =>
        refine .undecodable h v e hv ?_
        intro items rs hitems hd
        rw [RunResult.asList_eq_ok_iff.2 ⟨items, hitems, hd⟩] at hread
        cases hread
      | ok rs =>
        obtain ⟨items, rfl, hd⟩ := RunResult.asList_eq_ok_iff.1 hread
        have hresults := ((run.presentResults_eq_some_iff _).1 hv).1
        simp only
        cases hi : rs.findIdx? (fun r => r.name = "") with
        | some i => exact .emptyName h items rs i hresults hd hi
        | none => exact .read h items rs hresults hd hi

/-- The answer where all results decode. -/
theorem readResults_of_denotes {run : Run} (h : run.completion = .succeeded) {items : List Json}
    {rs : List RunResult} (hv : run.results = some (.arr items))
    (hd : List.Forall₂ Json.Denotes items rs) :
    run.readResults = match rs.findIdx? (fun r => r.name = "") with
      | some i => .error (.malformed (.emptyName i))
      | none => .ok rs := by
  have hpresent : run.presentResults = some (.arr items) :=
    (run.presentResults_eq_some_iff _).2 ⟨hv, by simp⟩
  have hread := RunResult.asList_eq_ok_iff.2 ⟨items, rfl, hd⟩
  cases hi : rs.findIdx? (fun r => r.name = "") <;> simp [readResults, h, hpresent, hread, hi]

/-- Results are read from a run that has succeeded with a list of values that stand for them, none
of which has an empty name. -/
theorem readResults_eq_ok_iff (run : Run) (rs : List RunResult) :
    run.readResults = .ok rs ↔ run.completion = .succeeded ∧
      ∃ items, run.results = some (.arr items) ∧ List.Forall₂ Json.Denotes items rs ∧
        ∀ r ∈ rs, r.name ≠ "" := by
  constructor
  · intro h
    have ha := run.answers_readResults
    rw [h] at ha
    cases ha with
    | read hc items _ hv hd hnames =>
      exact ⟨hc, items, hv, hd, by simpa [List.findIdx?_eq_none_iff] using hnames⟩
  · rintro ⟨hc, items, hv, hd, hnames⟩
    have hnone : rs.findIdx? (fun r => r.name = "") = none := by
      simpa [List.findIdx?_eq_none_iff] using hnames
    rw [readResults_of_denotes hc hv hd, hnone]

/-- The results of a run are refused with its state if it has not succeeded. -/
theorem readResults_eq_notSucceeded_iff (run : Run) (c : Completion) :
    run.readResults = .error (.notSucceeded c) ↔ run.completion = c ∧ c ≠ .succeeded := by
  constructor
  · intro h
    have ha := run.answers_readResults
    rw [h] at ha
    cases ha with
    | notSucceeded hc => exact ⟨rfl, hc⟩
  · rintro ⟨rfl, hc⟩
    simp [readResults, hc]

/-- The results of a run are missing if it has succeeded without any. -/
theorem readResults_eq_missing_iff (run : Run) :
    run.readResults = .error .missing ↔ run.completion = .succeeded ∧
      (run.results = none ∨ run.results = some .null) := by
  constructor
  · intro h
    have ha := run.answers_readResults
    rw [h] at ha
    cases ha with
    | missing hc hv => exact ⟨hc, run.presentResults_eq_none_iff.1 hv⟩
  · rintro ⟨hc, hv⟩
    simp [readResults, hc, run.presentResults_eq_none_iff.2 hv]

/-- Where all results decode and one of them has an empty name, the first of these is named. -/
theorem readResults_eq_emptyName_iff (run : Run) (i : Nat) :
    run.readResults = .error (.malformed (.emptyName i)) ↔ run.completion = .succeeded ∧
      ∃ items rs, run.results = some (.arr items) ∧ List.Forall₂ Json.Denotes items rs ∧
        ∃ hi : i < rs.length, rs[i].name = "" ∧ ∀ j (hj : j < i), rs[j].name ≠ "" := by
  constructor
  · intro h
    have ha := run.answers_readResults
    rw [h] at ha
    cases ha with
    | emptyName hc items rs _ hv hd hfound =>
      exact ⟨hc, items, rs, hv, hd, by simpa [List.findIdx?_eq_some_iff_getElem] using hfound⟩
  · rintro ⟨hc, items, rs, hv, hd, hleast⟩
    have hfound : rs.findIdx? (fun r => r.name = "") = some i := by
      simpa [List.findIdx?_eq_some_iff_getElem] using hleast
    rw [readResults_of_denotes hc hv hd, hfound]

/-- All other results, and only these, are malformed. -/
theorem exists_malformed_iff (run : Run) :
    (∃ defect, run.readResults = .error (.malformed defect)) ↔
      run.completion = .succeeded ∧ ∃ v, run.results = some v ∧ v ≠ .null ∧
        ∀ items rs, v = .arr items → List.Forall₂ Json.Denotes items rs →
          ∃ r ∈ rs, r.name = "" := by
  constructor
  · rintro ⟨defect, h⟩
    have ha := run.answers_readResults
    rw [h] at ha
    cases ha with
    | undecodable hc v e hv hno =>
      obtain ⟨hv, hnull⟩ := (run.presentResults_eq_some_iff v).1 hv
      exact ⟨hc, v, hv, hnull, fun items rs hitems hd => absurd hd (hno items rs hitems)⟩
    | emptyName hc items rs i hv hd hfound =>
      refine ⟨hc, _, hv, by simp, ?_⟩
      rintro items' rs' hitems hd'
      by_contra! hnames
      rw [(run.readResults_eq_ok_iff rs').2 ⟨hc, items', hitems ▸ hv, hd', hnames⟩] at h
      cases h
  · rintro ⟨hc, v, hv, hnull, hempty⟩
    cases hread : run.readResults with
    | ok rs =>
      obtain ⟨-, items, hitems, hd, hnames⟩ := (run.readResults_eq_ok_iff rs).1 hread
      obtain ⟨r, hr, hname⟩ := hempty items rs (Option.some.inj (hv.symm.trans hitems)) hd
      exact absurd hname (hnames r hr)
    | error e =>
      cases e with
      | notSucceeded c =>
        obtain ⟨rfl, hne⟩ := (run.readResults_eq_notSucceeded_iff c).1 hread
        exact absurd hc hne
      | missing =>
        obtain ⟨-, hmissing⟩ := run.readResults_eq_missing_iff.1 hread
        rw [hv] at hmissing
        simp [hnull] at hmissing
      | malformed defect => exact ⟨defect, rfl⟩

/-- Reading accepts the grammar of results and nothing else. Of the other answers, that the run has
not succeeded comes first, then that results are missing, then that they are malformed; where only
names are wanting, the first empty one is named. No other part of the record has any influence. -/
theorem results_read_by_grammar (run : Run) :
    (∀ rs, run.readResults = .ok rs ↔ run.completion = .succeeded ∧
      ∃ items, run.results = some (.arr items) ∧ List.Forall₂ Json.Denotes items rs ∧
        ∀ r ∈ rs, r.name ≠ "") ∧
    (∀ c, run.readResults = .error (.notSucceeded c) ↔ run.completion = c ∧ c ≠ .succeeded) ∧
    (run.readResults = .error .missing ↔ run.completion = .succeeded ∧
      (run.results = none ∨ run.results = some .null)) ∧
    ((∃ defect, run.readResults = .error (.malformed defect)) ↔
      run.completion = .succeeded ∧ ∃ v, run.results = some v ∧ v ≠ .null ∧
        ∀ items rs, v = .arr items → List.Forall₂ Json.Denotes items rs →
          ∃ r ∈ rs, r.name = "") ∧
    (∀ i, run.readResults = .error (.malformed (.emptyName i)) ↔ run.completion = .succeeded ∧
      ∃ items rs, run.results = some (.arr items) ∧ List.Forall₂ Json.Denotes items rs ∧
        ∃ hi : i < rs.length, rs[i].name = "" ∧ ∀ j (hj : j < i), rs[j].name ≠ "") ∧
    (∀ i, (ResultsDefect.emptyName i).message = s!"result at index {i} has an empty name") ∧
    ∀ key annotations finalizers time,
      (Run.mk key annotations finalizers time run.completion run.results).readResults
        = run.readResults :=
  ⟨run.readResults_eq_ok_iff, run.readResults_eq_notSucceeded_iff, run.readResults_eq_missing_iff,
    run.exists_malformed_iff, run.readResults_eq_emptyName_iff, fun _ => rfl, fun _ _ _ _ => rfl⟩

/-- Both forms of a result may stand in one list, and an object may hold more. -/
example :
    (Run.mk ⟨"ci", "r1"⟩ ∅ ∅ none .succeeded (some (.arr
      [.obj [("name", .str "output"), ("unit", .null), ("value", .str "42")],
        .arr [.str "digest", .str ""]]))).readResults
      = .ok [⟨"output", "42"⟩, ⟨"digest", ""⟩] := rfl

end Run

end RunHerald
