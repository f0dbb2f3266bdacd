import RunHerald.Error
import RunHerald.Notification.Payload

/-!
# A sink that records

A `Recorder` takes payloads and keeps them. Failures can be queued; each is the answer to one
attempt. It does not look for payloads that it has seen before.
-/

set_option autoImplicit false

namespace RunHerald

/-- A sink in memory. -/
structure Recorder where
  name : String
  delivered : List Payload
  failures : List DeliveryError
  attempts : Nat

namespace Recorder

/-- A recorder with a name, before any attempt. -/
def new (name : String) : Recorder := ⟨name, [], [], 0⟩

/-- The name of a recorder unless another is chosen. -/
def standardName : String := "memory"

/-- Queues a failure. -/
def queueFailure (r : Recorder) (error : DeliveryError) : Recorder :=
  { r with failures := r.failures ++ [error] }

/-- Attempts a delivery: the first queued failure is the answer, or the payload is kept. -/
def deliver (r : Recorder) (payload : Payload) : Except DeliveryError Unit × Recorder :=
  match r.failures with
  | e :: rest => (.error e, { r with failures := rest, attempts := r.attempts + 1 })
  | [] => (.ok (), { r with delivered := r.delivered ++ [payload], attempts := r.attempts + 1 })

end Recorder

end RunHerald
