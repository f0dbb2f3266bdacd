import RunHerald.Error
import RunHerald.Run.Phase

/-!
# Runs to rehearse with

A `Fixture` names a typical state of a record. All fixtures live in one namespace.
-/

set_option autoImplicit false

namespace RunHerald

/-- A typical state of a record. -/
inductive Fixture where
  | pending
  | guarded
  | succeeded
  | failed
  | notified
  | legacy
  | malformed
  deriving DecidableEq, Repr

namespace Fixture

/-- The namespace of every fixture. -/
def ns : String := "ci"

/-- The results of every fixture that has some. -/
def results : List RunResult := [⟨"image-digest", "sha256:4f1c9a"⟩, ⟨"commit", "9e2d7b1"⟩]

/-- All fixtures by name. -/
def all : List (String × Fixture) :=
  [("pending", .pending), ("guarded", .guarded), ("succeeded", .succeeded), ("failed", .failed),
    ("notified", .notified), ("legacy", .legacy), ("malformed", .malformed)]

/-- The fixture with a name. -/
def ofName? (name : String) : Option Fixture := (all.find? (·.1 = name)).map (·.2)

/-- A record in a typical state. -/
def build (m : Markers) (key : RunKey) : Fixture → Run
  | .pending => Run.new key
  | .guarded => (Run.new key).withFinalizer m.guardToken
  | .succeeded => ((Run.new key).withFinalizer m.guardToken).withResults results
  | .failed => ((Run.new key).withFinalizer m.guardToken).withCompletion .failed
  | .notified =>
    (((Run.new key).withFinalizer m.guardToken).withResults results).annotated
      m.markerKey m.markerValue
  | .legacy => ((Run.new key).withResults results).annotated m.markerKey m.markerValue
  | .malformed =>
    (((Run.new key).withFinalizer m.guardToken).withCompletion .succeeded).withRawResults
      (.obj [("not", .str "a list")])

/-- The record of a fixture with a name, or the words with which a bad name aborts. -/
def run (m : Markers) (name : String) (f : Fixture) : Except String Run :=
  match RunKey.make ns name with
  | .ok key => .ok (f.build m key)
  | .error fault => .error ("valid run key: " ++ (BaseError.ofKeyFault fault).describe)

end Fixture

end RunHerald
