import RunHerald.Store

/-!
# A store that is watched

A `WatchedStore` wraps a store, records every read and patch made through it, and can be made to
fail or to let somebody interfere:

* a queued fetch failure is used up by the next read;
* a queued patch failure is used up by the next patch of its kind;
* a queued interference is made just before the next patch that does not fail.

An interference may be anything that somebody can do to a record. In a `TracedStore`, the one of a
rehearsal, it is a list of edits.
-/

set_option autoImplicit false

namespace RunHerald

/-- A read or patch as it was requested. -/
inductive StoreOp where
  | fetch (key : RunKey)
  | patch (key : RunKey) (expected : String) (p : Patch)
  deriving DecidableEq

/-- What somebody does to a record: the record afterwards, and the words of an abort. -/
class Interference (ι : Type) where
  rework : ι → Run → Run × Option String

/-- Somebody applies edits. -/
instance : Interference (List Edit) := ⟨fun edits run => Edit.applyAll run edits⟩

/-- Somebody does anything. -/
instance : Interference (Run → Run × Option String) := ⟨id⟩

/-- A store with a record of its calls and queues of faults. -/
structure WatchedStore (ι : Type) where
  inner : Store
  operations : List StoreOp
  interference : List ι
  failingPatches : List String
  failingFetches : Nat

/-- A watched store with edits as interferences. -/
abbrev TracedStore := WatchedStore (List Edit)

namespace WatchedStore

variable {ι : Type}

/-- An empty store without faults. -/
def new : WatchedStore ι := ⟨.empty, [], [], [], 0⟩

/-- Records a call. -/
def record (t : WatchedStore ι) (op : StoreOp) : WatchedStore ι :=
  { t with operations := t.operations ++ [op] }

/-- The patches among the calls. -/
def patches (t : WatchedStore ι) : List Patch :=
  t.operations.filterMap fun
    | .patch _ _ p => some p
    | .fetch _ => none

/-- The number of reads among the calls. -/
def fetchCount (t : WatchedStore ι) : Nat :=
  t.operations.countP fun
    | .fetch _ => true
    | .patch .. => false

/-- Forgets the calls so far. -/
def forgetOperations (t : WatchedStore ι) : WatchedStore ι := { t with operations := [] }

/-- Queues a failure of a read. -/
def queueFetchFailure (t : WatchedStore ι) : WatchedStore ι :=
  { t with failingFetches := t.failingFetches + 1 }

/-- Queues a failure of a patch of some kind. -/
def queuePatchFailure (t : WatchedStore ι) (label : String) : WatchedStore ι :=
  { t with failingPatches := t.failingPatches ++ [label] }

/-- Queues edits before a patch, or another interference. -/
def queueEdits (t : WatchedStore ι) (edits : ι) : WatchedStore ι :=
  { t with interference := t.interference ++ [edits] }

/-- Reads a record. -/
def fetch (t : WatchedStore ι) (key : RunKey) :
    Except ServiceError (Option Snapshot) × WatchedStore ι :=
  let t := t.record (.fetch key)
  if 0 < t.failingFetches then
    (.error (.storage ("injected fetch failure for " ++ key.text)),
      { t with failingFetches := t.failingFetches - 1 })
  else (t.inner.fetch key, t)

/-- Makes the next interference, if there is any. -/
def interfere [Interference ι] (t : WatchedStore ι) (key : RunKey) : Attempt Unit × WatchedStore ι :=
  match t.interference with
  | [] => (.done (), t)
  | x :: rest =>
    match t.inner.rework key (Interference.rework x) with
    | (.done _, s) => (.done (), { t with inner := s, interference := rest })
    | (.failed e, s) => (.failed e, { t with inner := s, interference := rest })
    | (.aborted m, s) => (.aborted m, { t with inner := s, interference := rest })

/-- Changes a record if it has the expected version. -/
def patch [Interference ι] (t : WatchedStore ι) (key : RunKey) (expected : String) (p : Patch) :
    Attempt PatchResult × WatchedStore ι :=
  let t := t.record (.patch key expected p)
  if p.label ∈ t.failingPatches then
    (.failed (.storage s!"injected {p.label} failure for {key.text}"),
      { t with failingPatches := t.failingPatches.erase p.label })
  else
    match t.interfere key with
    | (.failed e, t) => (.failed e, t)
    | (.aborted m, t) => (.aborted m, t)
    | (.done _, t) =>
      let (result, s) := t.inner.patch key expected p
      (.ofExcept result, { t with inner := s })

end WatchedStore

/-- An empty store without faults. -/
def TracedStore.new : TracedStore := WatchedStore.new

end RunHerald
