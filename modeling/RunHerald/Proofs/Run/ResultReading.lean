import RunHerald.Proofs.Json.Decoding
import RunHerald.Run.Results

/-!
# Results are read back

Results that were written into a record are read out of it again, if none of them has an empty name.
-/

set_option autoImplicit false

namespace RunHerald

/-- A result is read back from its raw form. -/
theorem RunResult.ofJson_toJson (r : RunResult) : RunResult.ofJson r.toJson = .ok r := by
  obtain ⟨name, value⟩ := r
  rfl

/-- Results are read back one by one. -/
theorem eachItem_toJson (rs : List RunResult) :
    Json.eachItem RunResult.ofJson (rs.map RunResult.toJson) = .ok rs :=
  Json.eachItem_map RunResult.toJson RunResult.ofJson_toJson rs

/-- Results without an empty name are read back from a record. -/
theorem Run.readResults_withResults (run : Run) {rs : List RunResult}
    (hnames : ∀ result ∈ rs, result.name ≠ "") : (run.withResults rs).readResults = .ok rs := by
  have hfind : rs.findIdx? (fun result => result.name = "") = none := by
    rw [List.findIdx?_eq_none_iff]
    intro result hmem
    simpa using hnames result hmem
  simp [readResults, withResults, presentResults, Json.asList, eachItem_toJson, hfind]

end RunHerald
