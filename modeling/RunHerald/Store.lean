import RunHerald.Error
import RunHerald.Run.Edit
import RunHerald.Run.Patch
import RunHerald.Table

/-!
# The store of records

A `Store` keeps the records of runs by their keys. Every write takes the next version of one counter
for the whole store, so no version is ever given twice, not even to a record that is created anew.

* `patch` changes a record only if it still has the version that the change was computed from.
* `requestDelete` removes a record without finalizers; of any other it only notes the time, and the
  patch that takes away the last finalizer removes it.
* `rework` lets somebody else change a record at will, and `update` does so by a list of edits. A
  change that aborts leaves the record half done and the store unusable: from then on every operation
  fails.
-/

set_option autoImplicit false

namespace RunHerald

/-- A record with its version. -/
structure Record where
  run : Run
  version : Nat

/-- A record as a reader sees it, with the text of its version. -/
structure Snapshot where
  run : Run
  version : String

/-- The records of runs. The counter `lastVersion` is a natural number here; the one of the program
has 64 bits. Each write raises it by one, so both agree for fewer than `2 ^ 64` writes. -/
structure Store where
  records : Table RunKey Record
  lastVersion : Nat
  poisoned : Bool

/-- What came of a conditional change. -/
inductive PatchResult where
  | applied (version : String)
  | conflict (current : String)
  | notFound
  deriving DecidableEq, Repr

/-- Whether the change was made. -/
def PatchResult.isApplied : PatchResult → Bool
  | .applied _ => true
  | _ => false

/-- What came of a request to delete a record. -/
inductive DeleteResult where
  | deleted
  | pending
  | notFound
  deriving DecidableEq, Repr

/-- The name of such a result. -/
def DeleteResult.label : DeleteResult → String
  | .deleted => "deleted"
  | .pending => "pending"
  | .notFound => "not_found"

/-- How a call ends that may also abort. -/
inductive Attempt (α : Type) where
  | done (a : α)
  | failed (error : ServiceError)
  | aborted (message : String)

/-- A call that cannot abort. -/
def Attempt.ofExcept {α : Type} : Except ServiceError α → Attempt α
  | .ok a => .done a
  | .error e => .failed e

/-- The text of a version. -/
def versionText (n : Nat) : String := toString n

/-- A record as a reader sees it. -/
def Record.snapshot (r : Record) : Snapshot := ⟨r.run, versionText r.version⟩

namespace Store

/-- The store without records. -/
def empty : Store := ⟨.empty, 0, false⟩

instance : Inhabited Store := ⟨empty⟩

/-- The error of every operation on a store that an abort has left unusable. -/
def poisonError : ServiceError := .storage "run store lock poisoned"

/-- The store after a record was written under a key with the next version. -/
def save (s : Store) (key : RunKey) (run : Run) : Store :=
  { s with
    records := s.records.put key ⟨run, s.lastVersion + 1⟩
    lastVersion := s.lastVersion + 1 }

/-- The store after a record was removed. -/
def remove (s : Store) (key : RunKey) : Store := { s with records := s.records.drop key }

/-- Stores a record under its key, in place of any earlier one: its version. -/
def insert (s : Store) (run : Run) : Except ServiceError String × Store :=
  if s.poisoned then (.error poisonError, s)
  else (.ok (versionText (s.lastVersion + 1)), s.save run.key run)

/-- Lets somebody else rework a record: its version afterwards, or none if there is no record. The
rework may abort on its way. -/
def rework (s : Store) (key : RunKey) (f : Run → Run × Option String) :
    Attempt (Option String) × Store :=
  if s.poisoned then (.failed poisonError, s)
  else
    match s.records.get? key with
    | none => (.done none, s)
    | some r =>
      match f r.run with
      | (run, none) => (.done (some (versionText (s.lastVersion + 1))), s.save key run)
      | (run, some message) =>
        (.aborted message,
          { s with records := s.records.put key ⟨run, r.version⟩, poisoned := true })

/-- Applies edits to a record: its version after them, or none if there is no record. -/
def update (s : Store) (key : RunKey) (edits : List Edit) : Attempt (Option String) × Store :=
  s.rework key fun run => Edit.applyAll run edits

/-- Reads a record, if there is one. -/
def fetch (s : Store) (key : RunKey) : Except ServiceError (Option Snapshot) :=
  if s.poisoned then .error poisonError else .ok ((s.records.get? key).map Record.snapshot)

/-- Changes a record if it has the expected version. -/
def patch (s : Store) (key : RunKey) (expected : String) (p : Patch) :
    Except ServiceError PatchResult × Store :=
  if s.poisoned then (.error poisonError, s)
  else
    match s.records.get? key with
    | none => (.ok .notFound, s)
    | some r =>
      if versionText r.version ≠ expected then (.ok (.conflict (versionText r.version)), s)
      else
        let run := p.apply r.run
        let next := s.save key run
        (.ok (.applied (versionText next.lastVersion)),
          if run.isDeletionRequested && run.finalizers.isEmpty then next.remove key else next)

/-- Requests the deletion of a record. A second request changes nothing. -/
def requestDelete (s : Store) (now : Timestamp) (key : RunKey) :
    Except ServiceError DeleteResult × Store :=
  if s.poisoned then (.error poisonError, s)
  else
    match s.records.get? key with
    | none => (.ok .notFound, s)
    | some r =>
      if r.run.finalizers.isEmpty then (.ok .deleted, s.remove key)
      else if r.run.isDeletionRequested then (.ok .pending, s)
      else (.ok .pending, s.save key { r.run with deletionRequestedAt := some now })

/-- The number of records. -/
def runCount (s : Store) : Except ServiceError Nat :=
  if s.poisoned then .error poisonError else .ok s.records.size

end Store

end RunHerald
