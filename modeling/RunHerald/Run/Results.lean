import RunHerald.Error
import RunHerald.Run.Codec

/-!
# Results of a run

`Run.readResults` takes the results out of the record of a run that has succeeded. They must be a
list of named texts, and no name may be empty.
-/

set_option autoImplicit false

namespace RunHerald

/-- The results in raw form, unless they are absent or null. -/
def Run.presentResults (run : Run) : Option Json :=
  match run.results with
  | some .null => none
  | r => r

/-- The results of a run in their order. -/
def Run.readResults (run : Run) : Except ResultsError (List RunResult) :=
  if run.completion ≠ .succeeded then .error (.notSucceeded run.completion)
  else
    match run.presentResults with
    | none => .error .missing
    | some raw =>
      match Json.asList RunResult.ofJson raw with
      | .error e => .error (.malformed (.undecodable e))
      | .ok rs =>
        match rs.findIdx? (fun r => r.name = "") with
        | some i => .error (.malformed (.emptyName i))
        | none => .ok rs

end RunHerald
