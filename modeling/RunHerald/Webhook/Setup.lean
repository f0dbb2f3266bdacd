import RunHerald.Settings
import RunHerald.Webhook.Sink

/-!
# A reconciler with its webhook

`Settings.setUp` makes, from settings, the webhook and the reconciler that delivers to it.
-/

set_option autoImplicit false

namespace RunHerald

/-- A reconciler and the webhook that it delivers to. -/
structure Service where
  sink : WebhookSink
  reconciler : Reconciler

/-- Sets up the webhook that the settings must have, and the reconciler. -/
def Settings.setUp (s : Settings) : Except ServiceError Service :=
  match s.neededWebhook with
  | .error fault => .error fault.toError
  | .ok config =>
    match WebhookSink.setUp config with
    | .error e => .error e
    | .ok sink => .ok ⟨sink, s.reconciler WebhookSink.name⟩

end RunHerald
