import RunHerald.Json.Decode
import RunHerald.Run.Basic
import RunHerald.Time.Printer

/-!
# Run records as JSON values

`Run.toJson` writes a record and `Run.ofJson` reads one. A reader takes a record or any part of it
but the metadata also as an array of its fields. Keys are taken as they are, without the naming
rules. A record without annotations, finalizers, deletion time, status, state or results has the
empty ones; an unknown state is kept as unknown.
-/

set_option autoImplicit false

namespace RunHerald

open Json (field need item itemOr noMore asText asTimestamp asOption asList refuse)

/-- A key as a value. -/
def RunKey.toJson (k : RunKey) : Json := .obj [("name", .str k.name), ("namespace", .str k.ns)]

/-- The shape of a key. -/
def RunKey.shape : String := "struct RunKey"

/-- A key from the members of an object. -/
def RunKey.ofMembers (members : List (String × Json)) : Except DecodeError RunKey := do
  let name ← field members "name" asText
  let ns ← field members "namespace" asText
  return ⟨← need "namespace" ns, ← need "name" name⟩

/-- Reads a key; its parts need not satisfy the naming rules. -/
def RunKey.ofJson : Json → Except DecodeError RunKey
  | .obj members => ofMembers members
  | .arr items => do
    let shape := RunKey.shape ++ " with 2 elements"
    let ns ← item items 0 shape asText
    let name ← item items 1 shape asText
    noMore items 2
    return ⟨ns, name⟩
  | v => v.refuse RunKey.shape

/-- The shape of a result. -/
def RunResult.shape : String := "struct RunResult"

/-- Reads a result. -/
def RunResult.ofJson : Json → Except DecodeError RunResult
  | .obj members => do
    let name ← field members "name" asText
    let value ← field members "value" asText
    return ⟨← need "name" name, ← need "value" value⟩
  | .arr items => do
    let shape := RunResult.shape ++ " with 2 elements"
    let name ← item items 0 shape asText
    let value ← item items 1 shape asText
    noMore items 2
    return ⟨name, value⟩
  | v => v.refuse RunResult.shape

/-- A state as a value. -/
def Completion.toJson (c : Completion) : Json := .str c.word

/-- Reads a state: its name, or an object whose one member has that name and no value. -/
def Completion.ofJson : Json → Except DecodeError Completion
  | .str s => .ok (.ofWord s)
  | .obj [(s, .null)] => .ok (.ofWord s)
  | .obj [(_, v)] => v.refuse "unit"
  | .obj _ => .error .notSingleton
  | v => v.refuse "string or map"

/-- The metadata of a record: everything but its status. -/
structure Metadata where
  key : RunKey
  annotations : Dictionary String
  finalizers : TextSet
  deletionRequestedAt : Option Timestamp

/-- The status of a record. -/
structure Status where
  completion : Completion
  results : Option Json

instance : Inhabited Status := ⟨⟨.pending, none⟩⟩

/-- The parts of a record put together. -/
def Run.ofParts (m : Metadata) (s : Status) : Run :=
  ⟨m.key, m.annotations, m.finalizers, m.deletionRequestedAt, s.completion, s.results⟩

/-- Texts under names as a value. -/
def annotationsToJson (d : Dictionary String) : Json :=
  .obj (d.entries.map fun p => (p.1, .str p.2))

/-- Reads texts under names. -/
def annotationsOfJson : Json → Except DecodeError (Dictionary String)
  | .obj members => (Json.eachMember asText members).map Dictionary.ofList
  | v => v.refuse "a map"

/-- The metadata of a record as a value. -/
def Run.metadataToJson (r : Run) : Json :=
  let time := match r.deletionRequestedAt with
    | none => []
    | some t => [("deletionRequestedAt", .str t.text)]
  .obj ([("annotations", annotationsToJson r.annotations)] ++ time
    ++ [("finalizers", .arr ((TextSet.toList r.finalizers).map .str)), ("name", .str r.key.name),
      ("namespace", .str r.key.ns)])

/-- Reads the metadata of a record. -/
def Metadata.ofJson : Json → Except DecodeError Metadata
  | .obj members => do
    let annotations ← field members "annotations" annotationsOfJson
    let time ← field members "deletionRequestedAt" (asOption asTimestamp)
    let finalizers ← field members "finalizers" (asList asText)
    let key ← RunKey.ofMembers members
    return ⟨key, annotations.getD ∅, TextSet.ofList (finalizers.getD []), time.join⟩
  | v => v.refuse "struct RunMetadata"

/-- The status of a record as a value. -/
def Run.statusToJson (r : Run) : Json :=
  let results := match r.results with
    | none => []
    | some v => [("results", v)]
  .obj (("completion", r.completion.toJson) :: results)

/-- Raw results: any value but null. -/
def rawResults : Json → Except DecodeError (Option Json) := asOption .ok

/-- Reads the status of a record. -/
def Status.ofJson : Json → Except DecodeError Status
  | .obj members => do
    let completion ← field members "completion" Completion.ofJson
    let results ← field members "results" rawResults
    return ⟨completion.getD .pending, results.join⟩
  | .arr items => do
    let completion ← itemOr items 0 .pending Completion.ofJson
    let results ← itemOr items 1 none rawResults
    noMore items 2
    return ⟨completion, results⟩
  | v => v.refuse "struct RunStatus"

/-- A record as a value. -/
def Run.toJson (r : Run) : Json :=
  .obj [("metadata", r.metadataToJson), ("status", r.statusToJson)]

/-- The shape of a record. -/
def Run.shape : String := "struct Run"

/-- Reads a record. -/
def Run.ofJson : Json → Except DecodeError Run
  | .obj members => do
    let metadata ← field members "metadata" Metadata.ofJson
    let status ← field members "status" Status.ofJson
    return Run.ofParts (← need "metadata" metadata) (status.getD default)
  | .arr items => do
    let metadata ← item items 0 (Run.shape ++ " with 2 elements") Metadata.ofJson
    let status ← itemOr items 1 default Status.ofJson
    noMore items 2
    return Run.ofParts metadata status
  | v => v.refuse Run.shape

end RunHerald
