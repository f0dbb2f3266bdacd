import RunHerald.Json.Compact
import RunHerald.Run.Codec

/-!
# The text of a record

In the text of a record the fields stand in the order in which they are declared, while
`Run.toJson` has them in the order of their names. The parts of the key stand among the metadata.
-/

set_option autoImplicit false

namespace RunHerald

/-- The fields of a key in the order of the text. -/
def RunKey.fields (k : RunKey) : List (String × Json) :=
  [("namespace", .str k.ns), ("name", .str k.name)]

/-- The metadata of a record in the order of the text. -/
def Run.declaredMetadata (r : Run) : Json :=
  let time := match r.deletionRequestedAt with
    | none => []
    | some t => [("deletionRequestedAt", .str t.text)]
  .obj (r.key.fields ++ [("annotations", annotationsToJson r.annotations),
    ("finalizers", .arr ((TextSet.toList r.finalizers).map .str))] ++ time)

/-- A record in the order of the text. -/
def Run.declared (r : Run) : Json :=
  .obj [("metadata", r.declaredMetadata), ("status", r.statusToJson)]

/-- The text of a record. -/
def Run.written (r : Run) : String := r.declared.compact

end RunHerald
