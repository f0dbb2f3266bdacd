import RunHerald.Notification.Body
import RunHerald.Notification.Dispatch
import RunHerald.Webhook.Config
import RunHerald.Webhook.Request
import RunHerald.Webhook.Status

/-!
# The webhook

A `WebhookSink` posts payloads as JSON to an address. One attempt is one `Exchange`: a request, and
either a response or a failure. An exchange that failed, or whose status says so, may be repeated up
to the number of attempts; any other ends the delivery. A request that cannot be made is tried as
often, without an exchange.

How exchanges come about is a parameter, so that everything here can be computed.
-/

set_option autoImplicit false

namespace RunHerald

/-- What came of a request: a response, whose body may have been cut short, or a failure. -/
inductive Exchange where
  | answered (status : Nat) (body : Option String)
  | failed
  | timedOut
  deriving DecidableEq, Repr

/-- A sink that posts payloads. -/
structure WebhookSink where
  endpoint : Url
  config : WebhookConfig

/-- The name of every webhook. -/
def WebhookSink.name : String := "webhook"

namespace WebhookSink

/-- Sets up a webhook: the address is judged first, then its scheme, then the number of attempts. -/
def setUp (config : WebhookConfig) : Except ServiceError WebhookSink :=
  match Url.parse config.url with
  | .error e => .error (.configuration ("invalid webhook URL: " ++ e.message))
  | .ok url =>
    if url.scheme ≠ "http" ∧ url.scheme ≠ "https" then
      .error (.configuration s!"webhook URL must use http or https, got '{url.scheme}'")
    else if config.maxAttempts = 0 then
      .error (.configuration "webhook max_attempts must be greater than zero")
    else .ok ⟨url, config⟩

/-- Whether a text may be sent in the head of a request: no controls but the tab. -/
def isHeaderText (s : String) : Bool :=
  s.toList.all fun c => c = '\t' || (0x20 ≤ c.toNat && c.toNat ≠ 0x7F)

/-- The request for a payload, if it can be made. Its head is judged first, then its address. -/
def request (sink : WebhookSink) (payload : Payload) : Except RequestFault Request :=
  let token := sink.config.bearerToken
  let url := sink.endpoint.requested
  if ¬isHeaderText payload.fingerprint ∨ token.any fun t => ¬isHeaderText t.expose then
    .error .head
  else if ¬url.isRequestable then .error (.address url)
  else
    .ok {
      method := "POST"
      url
      authorization :=
        (sink.endpoint.credentials?.map Request.basic).toList ++ (token.map Request.bearer).toList
      idempotencyKey := payload.fingerprint
      contentType := "application/json"
      body := payload.body }

/-- The greatest number of bytes of a body that is kept for an error. -/
def maxErrorBody : Nat := 512

/-- The words for a request that could not be sent. -/
def sendFailure (request : Request) : String :=
  "error sending request for url (" ++ request.url.text ++ ")"

/-- The result that an exchange stands for. -/
def verdict (request : Request) : Exchange → DeliveryResult
  | .failed => .error (.transport ("webhook request failed: " ++ sendFailure request))
  | .timedOut => .error (.transport ("webhook request timed out: " ++ sendFailure request))
  | .answered status body =>
    if Status.isSuccess status then .ok ()
    else
      let body := clip maxErrorBody (body.getD "")
      if Status.isTransient status then
        .error (.transport s!"webhook unavailable (status={Status.text status}): {body}")
      else .error (.rejected (some status) body)

/-- The result of an attempt whose request cannot be made. -/
def refusal (fault : RequestFault) : DeliveryResult :=
  .error (.transport ("webhook request failed: " ++ fault.text))

variable {σ : Type}

/-- Makes one attempt. -/
def attempt (sink : WebhookSink) (exchange : Request → σ → Exchange × σ) (payload : Payload)
    (s : σ) : DeliveryResult × σ :=
  match sink.request payload with
  | .error fault => (refusal fault, s)
  | .ok request =>
    let (x, s) := exchange request s
    (verdict request x, s)

/-- Makes an attempt with the given number, and up to `left` more while the sink cannot be reached:
the result of the last one, and a report before each repetition. -/
def attemptFrom (sink : WebhookSink) (exchange : Request → σ → Exchange × σ) (payload : Payload)
    (number : Nat) : Nat → σ → (DeliveryResult × List Report) × σ
  | 0, s =>
    let (result, s) := sink.attempt exchange payload s
    ((result, []), s)
  | left + 1, s =>
    match sink.attempt exchange payload s with
    | (.error (.transport m), s) =>
      let ((result, reports), s) := sink.attemptFrom exchange payload (number + 1) left s
      ((result, .retryingDelivery number (.transport m) :: reports), s)
    | (result, s) => ((result, []), s)

/-- Delivers a payload. -/
def deliver (sink : WebhookSink) (exchange : Request → σ → Exchange × σ) (payload : Payload)
    (s : σ) : (DeliveryResult × List Report) × σ :=
  sink.attemptFrom exchange payload 1 (sink.config.maxAttempts.toNat - 1) s

end WebhookSink

end RunHerald
