import RunHerald.Webhook.Sink

/-!
# A scripted receiver

A `Receiver` answers one request per scripted `Response` and keeps the requests that arrived. When
the script is used up it answers with status 204. A receiver that cannot be reached answers nothing
and its script stays as it is.
-/

set_option autoImplicit false

namespace RunHerald

/-- A scripted response. Without a status the connection is closed. The body is cut short if more
bytes are announced than there are. -/
structure Response where
  status : Option Nat
  body : List UInt8
  announced : Option Nat
  delay : Duration

/-- A receiver with a script. -/
structure Receiver where
  reachable : Bool
  script : List Response
  requests : List Request

namespace Receiver

/-- A receiver before any request. -/
def new (reachable : Bool) (script : List Response) : Receiver := ⟨reachable, script, []⟩

/-- The status when the script is used up. -/
def exhaustedStatus : Nat := 204

/-- Whether one length of time is shorter than another. -/
def isShorter (a b : Duration) : Bool :=
  a.seconds < b.seconds || (a.seconds = b.seconds && a.nanos < b.nanos)

/-- The exchange that a response makes, for a sender who waits for the given time. -/
def exchangeOf (timeout : Duration) (r : Response) : Exchange :=
  if isShorter timeout r.delay then .timedOut
  else
    match r.status with
    | none => .failed
    | some status =>
      let cut := match r.announced with
        | none => false
        | some n => r.body.length < n
      .answered status (if cut then none else some (decodeLossy r.body))

/-- Takes a request. -/
def exchange (timeout : Duration) (request : Request) (r : Receiver) : Exchange × Receiver :=
  if r.reachable then
    let r := { r with requests := r.requests ++ [request] }
    match r.script with
    | [] => (.answered exhaustedStatus (some ""), r)
    | response :: rest => (exchangeOf timeout response, { r with script := rest })
  else (.failed, r)

end Receiver

end RunHerald
