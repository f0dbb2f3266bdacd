import RunHerald.Error
import RunHerald.Reconcile.Invocation
import RunHerald.Text.Blank
import RunHerald.Webhook.Config

/-!
# Settings

Settings are loaded from ten variables. Each has a default, except the address of the webhook, which
is only needed where the webhook is; the other variables of the webhook only count with its address.
A variable that is set to something outside its rule is an error. The variables are judged in a
fixed order and the first fault is the one reported.
-/

set_option autoImplicit false

namespace RunHerald

/-- How logs are written. -/
inductive LogFormat where
  | json
  | pretty
  deriving DecidableEq, Repr

namespace LogFormat

/-- The name of a format. -/
def label : LogFormat → String
  | .json => "json"
  | .pretty => "pretty"

/-- The name of a format in descriptions. -/
def word : LogFormat → String
  | .json => "Json"
  | .pretty => "Pretty"

/-- A text in small ASCII letters. -/
def lower (s : String) : List Char := s.toList.map Char.toLower

/-- The error for a text that names no format. -/
def unknown (s : String) : BaseError :=
  .configuration s!"unknown log format '{s}' (expected 'json' or 'pretty')"

/-- Reads the name of a format, in letters of either case. -/
def parse (s : String) : Except BaseError LogFormat :=
  if lower s = "json".toList then .ok .json
  else if lower s = "pretty".toList then .ok .pretty
  else .error (unknown s)

end LogFormat

/-- The variables that settings are loaded from. -/
inductive Variable where
  | guardToken
  | markerKey
  | markerValue
  | maxConflictRetries
  | retryBackoff
  | rejectedBackoff
  | webhookUrl
  | webhookToken
  | webhookTimeout
  | logFormat
  deriving DecidableEq, Repr

/-- The name of a variable. -/
def Variable.name : Variable → String
  | .guardToken => "NOTIFIER_GUARD_TOKEN"
  | .markerKey => "NOTIFIER_MARKER_KEY"
  | .markerValue => "NOTIFIER_MARKER_VALUE"
  | .maxConflictRetries => "NOTIFIER_MAX_CONFLICT_RETRIES"
  | .retryBackoff => "NOTIFIER_RETRY_BACKOFF_SECS"
  | .rejectedBackoff => "NOTIFIER_REJECTED_BACKOFF_SECS"
  | .webhookUrl => "NOTIFIER_WEBHOOK_URL"
  | .webhookToken => "NOTIFIER_WEBHOOK_TOKEN"
  | .webhookTimeout => "NOTIFIER_WEBHOOK_TIMEOUT_SECS"
  | .logFormat => "NOTIFIER_LOG_FORMAT"

/-- The values of the variables that are set. -/
abbrev Variables := Variable → Option String

/-- The variables whose names are keys of a dictionary. -/
def Variables.ofDictionary (d : Dictionary String) : Variables := fun v => d.get? v.name

/-- What is wrong with the value of a variable. -/
inductive SettingsFault where
  | empty (v : Variable)
  | notCount (v : Variable) (raw : String)
  | notPositive (v : Variable) (raw : String)
  | zero (v : Variable)
  | logFormat (cause : BaseError)
  | missing (v : Variable)
  deriving DecidableEq, Repr

/-- The error that a fault becomes. -/
def SettingsFault.toError : SettingsFault → ServiceError
  | .empty v => .configuration s!"{v.name} must not be empty"
  | .notCount v raw => .configuration s!"{v.name} must be a non-negative integer, got '{raw}'"
  | .notPositive v raw => .configuration s!"{v.name} must be a positive integer, got '{raw}'"
  | .zero v => .configuration s!"{v.name} must be greater than zero"
  | .logFormat e => .base e
  | .missing v => .configuration s!"missing {v.name}"

/-- What a reconciler and its surroundings are set up with. -/
structure Settings where
  markers : Markers
  maxConflictRetries : UInt32
  retryBackoff : Duration
  rejectedBackoff : Duration
  webhook : Option WebhookConfig
  logFormat : LogFormat

namespace Settings

/-- A text that must not be empty. -/
def nonEmpty (vars : Variables) (v : Variable) (default : String) : Except SettingsFault String :=
  match vars v with
  | none => .ok default
  | some s => if s = "" then .error (.empty v) else .ok s

/-- The number of conflicts to put up with. -/
def conflictRetries (vars : Variables) : Except SettingsFault UInt32 :=
  match vars .maxConflictRetries with
  | none => .ok 3
  | some raw =>
    match readNumeral (UInt32.size - 1) raw with
    | some n => .ok (UInt32.ofNat n)
    | none => .error (.notCount .maxConflictRetries raw)

/-- A number of seconds, at least one. -/
def seconds (vars : Variables) (v : Variable) (default : Nat) : Except SettingsFault Duration :=
  match vars v with
  | none => .ok (.ofSeconds default)
  | some raw =>
    match readNumeral (UInt64.size - 1) raw with
    | none => .error (.notPositive v raw)
    | some 0 => .error (.zero v)
    | some n => .ok (.ofSeconds n)

/-- The token, if it is set and not empty. -/
def token (vars : Variables) : Option Secret :=
  match vars .webhookToken with
  | none => none
  | some s => if s = "" then none else some ⟨s⟩

/-- The settings of the webhook, if it has an address. -/
def webhookConfig (vars : Variables) : Except SettingsFault (Option WebhookConfig) :=
  match vars .webhookUrl with
  | none => .ok none
  | some url =>
    if isAllBlank url then .error (.empty .webhookUrl)
    else do
      let timeout ← seconds vars .webhookTimeout 10
      return some
        { WebhookConfig.new url with requestTimeout := timeout, bearerToken := token vars }

/-- The format of the logs. -/
def format (vars : Variables) : Except SettingsFault LogFormat :=
  match vars .logFormat with
  | none => .ok .pretty
  | some raw =>
    match LogFormat.parse raw with
    | .ok f => .ok f
    | .error e => .error (.logFormat e)

/-- Loads settings. -/
def load (vars : Variables) : Except SettingsFault Settings := do
  let guardToken ← nonEmpty vars .guardToken Markers.standard.guardToken
  let markerKey ← nonEmpty vars .markerKey Markers.standard.markerKey
  let markerValue ← nonEmpty vars .markerValue Markers.standard.markerValue
  let maxConflictRetries ← conflictRetries vars
  let retryBackoff ← seconds vars .retryBackoff 30
  let rejectedBackoff ← seconds vars .rejectedBackoff 300
  let webhook ← webhookConfig vars
  let logFormat ← format vars
  return ⟨⟨guardToken, markerKey, markerValue⟩, maxConflictRetries, retryBackoff, rejectedBackoff,
    webhook, logFormat⟩

/-- The settings of the webhook where it is needed. -/
def neededWebhook (s : Settings) : Except SettingsFault WebhookConfig :=
  match s.webhook with
  | some c => .ok c
  | none => .error (.missing .webhookUrl)

/-- The description of settings does not show the token of the webhook. -/
def describe (s : Settings) : String :=
  let webhook := match s.webhook with
    | none => "None"
    | some c => "Some(" ++ c.describe ++ ")"
  "ControllerConfig \x7b markers: " ++ s.markers.describe
    ++ ", max_conflict_retries: " ++ toString s.maxConflictRetries.toNat
    ++ ", retry_backoff: " ++ s.retryBackoff.text
    ++ ", rejected_backoff: " ++ s.rejectedBackoff.text
    ++ ", webhook: " ++ webhook
    ++ ", log_format: " ++ s.logFormat.word ++ " \x7d"

/-- The reconciler that these settings are for, with a sink of the given name. -/
def reconciler (s : Settings) (sinkName : String) : Reconciler :=
  ⟨sinkName, s.markers, s.maxConflictRetries, s.retryBackoff, s.rejectedBackoff⟩

end Settings

end RunHerald
