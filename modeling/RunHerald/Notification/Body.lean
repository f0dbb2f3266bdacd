import RunHerald.Json.Draft
import RunHerald.Notification.Payload
import RunHerald.Run.Document
import RunHerald.Run.Written

/-!
# The text of a payload

`Payload.body` is what is posted: the fields in the order in which they are declared. A receiver
reads it as a value and takes the payload out of it (`Payload.ofBody`).
-/

set_option autoImplicit false

namespace RunHerald.Payload

/-- A payload in the order of the text. -/
def declared (p : Payload) : Json :=
  .obj [("run", .obj p.run.fields), ("results", .arr (p.results.map RunResult.toJson)),
    ("fingerprint", .str p.fingerprint), ("dispatchedAt", .str p.dispatchedAt.text)]

/-- The text of a payload. -/
def body (p : Payload) : String := p.declared.compact

/-- Reads the text of a payload. -/
def ofBody (s : String) : Except DocumentError Payload := do
  let v ← (Json.ofText s).mapError .text
  (ofJson v).mapError .data

end RunHerald.Payload
