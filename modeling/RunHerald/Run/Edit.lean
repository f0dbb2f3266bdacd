import RunHerald.Run.Basic

/-!
# Edits by others

Anyone may edit a record: change its state, its annotations, its finalizers or its results. A list
of edits is applied in order. An edit may also abort; what came before it has then been done.
-/

set_option autoImplicit false

namespace RunHerald

/-- One edit of a record. -/
inductive Edit where
  | completion (c : Completion)
  | annotate (name value : String)
  | unannotate (name : String)
  | finalizer (token : String)
  | unfinalizer (token : String)
  | results (rs : List RunResult)
  | rawResults (raw : Json)
  | clearResults
  | abort (message : String)

/-- The record after an edit, or the words with which the edit aborts. -/
def Edit.apply (run : Run) : Edit → Except String Run
  | .completion c => .ok (run.withCompletion c)
  | .annotate name value => .ok (run.annotated name value)
  | .unannotate name => .ok (run.unannotated name)
  | .finalizer token => .ok (run.withFinalizer token)
  | .unfinalizer token => .ok (run.withoutFinalizer token)
  | .results rs => .ok (run.withResults rs)
  | .rawResults raw => .ok (run.withRawResults raw)
  | .clearResults => .ok { run with results := none }
  | .abort message => .error message

/-- The record after edits up to the first that aborts, and the words of that one. -/
def Edit.applyAll (run : Run) : List Edit → Run × Option String
  | [] => (run, none)
  | e :: es =>
    match e.apply run with
    | .ok run => applyAll run es
    | .error message => (run, some message)

end RunHerald
