import RunHerald.Secret
import RunHerald.Text.Quoted
import RunHerald.Time.Duration

/-!
# Webhook settings

Where payloads are posted, with which token, how long a connection and a request may take, and how
often a delivery is attempted.
-/

set_option autoImplicit false

namespace RunHerald

/-- The settings of a webhook. -/
structure WebhookConfig where
  url : String
  bearerToken : Option Secret
  connectTimeout : Duration
  requestTimeout : Duration
  maxAttempts : UInt32

namespace WebhookConfig

/-- The settings for an address, without a token. -/
def new (url : String) : WebhookConfig := ⟨url, none, .ofSeconds 2, .ofSeconds 10, 2⟩

/-- The description of settings does not show the token. -/
def describe (c : WebhookConfig) : String :=
  "WebhookConfig \x7b url: " ++ Quoted.write c.url
    ++ ", bearer_token: " ++ Secret.describe? c.bearerToken
    ++ ", connect_timeout: " ++ c.connectTimeout.text
    ++ ", request_timeout: " ++ c.requestTimeout.text
    ++ ", max_attempts: " ++ toString c.maxAttempts.toNat ++ " \x7d"

end WebhookConfig

end RunHerald
