import RunHerald.Rehearsal.World

/-!
# Checks

A check of a rehearsal passes or aborts with words that say what was expected and what was found.
-/

set_option autoImplicit false

namespace RunHerald.Check

/-- Passes if the condition holds. -/
def expect (condition : Bool) (message : String) : Except String Unit :=
  if condition then .ok () else .error message

/-- A record carries the guard. -/
def guarded (m : Markers) (run : Run) : Except String Unit :=
  expect (run.isGuarded m)
    (s!"Expected run {run.key.text} to carry guard {Quoted.write m.guardToken}, finalizers were "
      ++ Quoted.writeSet (TextSet.toList run.finalizers))

/-- A record does not carry the guard. -/
def unguarded (m : Markers) (run : Run) : Except String Unit :=
  expect (!run.isGuarded m)
    (s!"Expected run {run.key.text} to be released, finalizers were "
      ++ Quoted.writeSet (TextSet.toList run.finalizers))

/-- A record carries the marker. -/
def marked (m : Markers) (run : Run) : Except String Unit :=
  expect (run.isMarked m)
    (s!"Expected run {run.key.text} to carry marker {m.markerKey}={m.markerValue}, "
      ++ "annotations were " ++ Quoted.writePairs run.annotations.entries)

/-- A record does not carry the marker. -/
def unmarked (m : Markers) (run : Run) : Except String Unit :=
  expect (!run.isMarked m)
    (s!"Expected run {run.key.text} to have no marker, annotations were "
      ++ Quoted.writePairs run.annotations.entries)

/-- There is no record. -/
def removed {ι : Type} (w : World ι) (key : RunKey) : Except String Unit := do
  let run ← w.current key
  expect run.isNone s!"Expected run {key.text} to be removed"

/-- The recording sink has accepted so many payloads for a run. -/
def deliveries {ι : Type} (w : World ι) (key : RunKey) (expected : Nat) : Except String Unit :=
  let count := w.sink.delivered.countP fun p => p.run = key
  expect (count = expected)
    ("assertion \u0060left == right\u0060 failed: "
      ++ s!"Expected {expected} deliveries for {key.text}, got {count}\n  left: {count}\n right: "
      ++ toString expected)

end RunHerald.Check
