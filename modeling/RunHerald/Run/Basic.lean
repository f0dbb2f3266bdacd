import RunHerald.Dictionary
import RunHerald.Json.Basic
import RunHerald.RunKey
import RunHerald.Time.Timestamp

/-!
# Run records

A `Run` is the record of one execution of a pipeline, as far as it matters here: its key, its
annotations, its finalizers, the time at which its deletion was requested, how far it has come, and
its results in the raw form in which another system wrote them.
-/

set_option autoImplicit false

namespace RunHerald

/-- How far an execution has come. -/
inductive Completion where
  | pending
  | succeeded
  | failed
  | unknown
  deriving DecidableEq, Repr

namespace Completion

instance : Inhabited Completion := ⟨.pending⟩

/-- The name of a state in logs. -/
def label : Completion → String
  | .pending => "pending"
  | .succeeded => "succeeded"
  | .failed => "failed"
  | .unknown => "unknown"

/-- The name of a state in a record. -/
def word : Completion → String
  | .pending => "Pending"
  | .succeeded => "Succeeded"
  | .failed => "Failed"
  | .unknown => "Unknown"

/-- The state that a name in a record stands for; other names are left to later versions. -/
def ofWord (s : String) : Completion :=
  if s = "Pending" then .pending
  else if s = "Succeeded" then .succeeded
  else if s = "Failed" then .failed
  else .unknown

/-- A state is read back from its name. -/
theorem ofWord_word (c : Completion) : ofWord c.word = c := by cases c <;> decide

end Completion

/-- A named result of an execution. -/
structure RunResult where
  name : String
  value : String
  deriving DecidableEq, Repr

/-- The record of an execution. -/
structure Run where
  key : RunKey
  annotations : Dictionary String
  finalizers : TextSet
  deletionRequestedAt : Option Timestamp
  completion : Completion
  results : Option Json

namespace Run

/-- The record of an execution that has just been accepted. -/
def new (key : RunKey) : Run := ⟨key, .empty, .empty, none, .pending, none⟩

/-- The value of an annotation. -/
def annotationValue? (run : Run) (name : String) : Option String := run.annotations.get? name

/-- Whether the record carries a finalizer. -/
def hasFinalizer (run : Run) (token : String) : Bool := TextSet.has run.finalizers token

/-- Whether the deletion of the record has been requested. -/
def isDeletionRequested (run : Run) : Bool := run.deletionRequestedAt.isSome

/-- Whether the execution has succeeded. -/
def succeeded (run : Run) : Bool := run.completion = .succeeded

/-- The record with a state. -/
def withCompletion (run : Run) (c : Completion) : Run := { run with completion := c }

/-- The record with an annotation. -/
def annotated (run : Run) (name value : String) : Run :=
  { run with annotations := run.annotations.insert name value }

/-- The record without an annotation. -/
def unannotated (run : Run) (name : String) : Run :=
  { run with annotations := run.annotations.erase name }

/-- The record with a finalizer. -/
def withFinalizer (run : Run) (token : String) : Run :=
  { run with finalizers := TextSet.add run.finalizers token }

/-- The record without a finalizer. -/
def withoutFinalizer (run : Run) (token : String) : Run :=
  { run with finalizers := run.finalizers.erase token }

/-- The record with results in raw form. -/
def withRawResults (run : Run) (raw : Json) : Run := { run with results := some raw }

end Run

/-- A result in raw form. -/
def RunResult.toJson (r : RunResult) : Json := .obj [("name", .str r.name), ("value", .str r.value)]

/-- The record of an execution that has succeeded with results. -/
def Run.withResults (run : Run) (rs : List RunResult) : Run :=
  { run with completion := .succeeded, results := some (.arr (rs.map RunResult.toJson)) }

end RunHerald
