import RunHerald.Run.Basic

/-!
# Conditional changes

The reconciler changes a record only by a `Patch`: one finalizer more or less, or one annotation.
Each is idempotent.
-/

set_option autoImplicit false

namespace RunHerald

/-- A change of one finalizer or annotation. -/
inductive Patch where
  | addFinalizer (token : String)
  | removeFinalizer (token : String)
  | annotate (name value : String)
  deriving DecidableEq, Repr

/-- The record after a change. -/
def Patch.apply (run : Run) : Patch → Run
  | .addFinalizer token => run.withFinalizer token
  | .removeFinalizer token => run.withoutFinalizer token
  | .annotate name value => run.annotated name value

/-- The kind of a change. -/
def Patch.label : Patch → String
  | .addFinalizer _ => "add_finalizer"
  | .removeFinalizer _ => "remove_finalizer"
  | .annotate .. => "set_annotation"

end RunHerald
