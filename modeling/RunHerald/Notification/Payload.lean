import RunHerald.Digest.Sha256
import RunHerald.Run.Codec
import RunHerald.Text.Utf8

/-!
# Notification payloads

A `Payload` tells a receiver the results of one run. Its fingerprint is the SHA-256 digest of the
key and the results, each text preceded by its length, so that no two lists of texts are framed
alike; a receiver can recognise a delivery that it has seen before.
-/

set_option autoImplicit false

namespace RunHerald

namespace Fingerprint

/-- The texts that a fingerprint covers. -/
def fields (key : RunKey) (results : List RunResult) : List String :=
  key.ns :: key.name :: results.flatMap fun r => [r.name, r.value]

/-- The bytes of a text after eight bytes for their number. -/
def frame (s : String) : List UInt8 := Sha256.bigEndian 8 (utf8Bytes s).length ++ utf8Bytes s

/-- The bytes that are digested. -/
def bytes (key : RunKey) (results : List RunResult) : List UInt8 :=
  (fields key results).flatMap frame

/-- The fingerprint of a key and results, as 64 hexadecimal digits. -/
def compute (key : RunKey) (results : List RunResult) : String :=
  Sha256.hex (Sha256.digest (bytes key results))

end Fingerprint

/-- What a receiver is told about a run. -/
structure Payload where
  run : RunKey
  results : List RunResult
  fingerprint : String
  dispatchedAt : Timestamp
  deriving DecidableEq

namespace Payload

/-- The payload for a run and its results. -/
def new (run : RunKey) (results : List RunResult) (now : Timestamp) : Payload :=
  ⟨run, results, Fingerprint.compute run results, now⟩

/-- A payload as a value. -/
def toJson (p : Payload) : Json :=
  .obj [("dispatchedAt", .str p.dispatchedAt.text), ("fingerprint", .str p.fingerprint),
    ("results", .arr (p.results.map RunResult.toJson)), ("run", p.run.toJson)]

/-- The shape of a payload. -/
def shape : String := "struct NotificationPayload"

open Json (field need item noMore asText asTimestamp asList)

/-- Reads a payload. -/
def ofJson : Json → Except DecodeError Payload
  | .obj members => do
    let time ← field members "dispatchedAt" asTimestamp
    let fingerprint ← field members "fingerprint" asText
    let results ← field members "results" (asList RunResult.ofJson)
    let run ← field members "run" RunKey.ofJson
    let run ← need "run" run
    let results ← need "results" results
    let fingerprint ← need "fingerprint" fingerprint
    let time ← need "dispatchedAt" time
    return ⟨run, results, fingerprint, time⟩
  | .arr items => do
    let shape := shape ++ " with 4 elements"
    let run ← item items 0 shape RunKey.ofJson
    let results ← item items 1 shape (asList RunResult.ofJson)
    let fingerprint ← item items 2 shape asText
    let time ← item items 3 shape asTimestamp
    noMore items 4
    return ⟨run, results, fingerprint, time⟩
  | v => v.refuse shape

end Payload

end RunHerald
