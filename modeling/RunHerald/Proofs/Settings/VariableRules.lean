import Mathlib
import RunHerald.Proofs.Settings.Loading

/-!
# The rules of the variables

Each variable has a rule, and `Variable.Admits` says which texts are within it. Each field of the
settings has a variable of its own, and `OwnValues` says which value it takes from there. Settings
are loaded exactly if there are such values (`load_eq_ok_iff_ownValues`), so what is outside its
rule is refused, whatever the other variables hold.

Two texts escape: an empty token counts as none, and a timeout is not looked at without an address.
-/

set_option autoImplicit false

namespace RunHerald

/-- The texts that a variable may be set to. -/
def Variable.Admits : Variable → String → Prop
  | .guardToken, raw | .markerKey, raw | .markerValue, raw | .webhookToken, raw => raw ≠ ""
  | .maxConflictRetries, raw => ∃ n, StandsFor raw n ∧ n < 2 ^ 32
  | .retryBackoff, raw | .rejectedBackoff, raw | .webhookTimeout, raw =>
    ∃ n, StandsFor raw n ∧ 1 ≤ n ∧ n < 2 ^ 64
  | .webhookUrl, raw => ∃ c ∈ raw.toList, isBlank c = false
  | .logFormat, raw => raw.toLower = "json" ∨ raw.toLower = "pretty"

namespace Settings

variable {vars : Variables} {s : Settings}

/-! ## The values of the variables -/

/-- The settings of the webhook that an address stands for. They also take up a token and a number
of seconds. -/
def IsWebhook (vars : Variables) (url : String) (w : Option WebhookConfig) : Prop :=
  Variable.Admits .webhookUrl url ∧
  ∃ token, Own (vars .webhookToken) none IsToken token ∧
  ∃ timeout, Own (vars .webhookTimeout) (.ofSeconds 10) IsSeconds timeout ∧
    w = some ⟨url, token, .ofSeconds 2, timeout, 2⟩

/-- The settings of a webhook are read from its variables. -/
theorem webhookConfig_eq_ok_iff {w : Option WebhookConfig} :
    webhookConfig vars = .ok w ↔ Own (vars .webhookUrl) none (IsWebhook vars) w := by
  unfold webhookConfig
  cases vars .webhookUrl with
  | none => simp [eq_comm]
  | some url =>
    have hblank : Variable.Admits .webhookUrl url ↔ isAllBlank url = false := by
      simp [Variable.Admits, isAllBlank]
    simp only [own_some, IsWebhook, hblank, ← eq_token_iff, exists_eq_left]
    cases isAllBlank url with
    | true => simp
    | false =>
      simp only [Bool.false_eq_true, if_false, bind_eq_ok_iff, seconds_eq_ok_iff, true_and]
      refine exists_congr fun timeout => and_congr_right fun _ => ?_
      exact ⟨fun h => (Except.ok.inj h).symm, fun h => h ▸ rfl⟩

/-- Each field of the settings has the value of its own variable. -/
structure OwnValues (vars : Variables) (s : Settings) : Prop where
  guardToken : Own (vars .guardToken) "notification.guard" IsText s.markers.guardToken
  markerKey : Own (vars .markerKey) "notification.sent" IsText s.markers.markerKey
  markerValue : Own (vars .markerValue) "true" IsText s.markers.markerValue
  maxConflictRetries : Own (vars .maxConflictRetries) 3 IsCount s.maxConflictRetries
  retryBackoff : Own (vars .retryBackoff) (.ofSeconds 30) IsSeconds s.retryBackoff
  rejectedBackoff : Own (vars .rejectedBackoff) (.ofSeconds 300) IsSeconds s.rejectedBackoff
  webhook : Own (vars .webhookUrl) none (IsWebhook vars) s.webhook
  logFormat : Own (vars .logFormat) .pretty IsFormat s.logFormat

/-- Settings are loaded if each field has got the value of its own variable, and only then. -/
theorem load_eq_ok_iff_ownValues : load vars = .ok s ↔ OwnValues vars s := by
  rw [load_eq_ok_iff]
  constructor
  · intro h
    exact ⟨nonEmpty_eq_ok_iff.1 h.guardToken, nonEmpty_eq_ok_iff.1 h.markerKey,
      nonEmpty_eq_ok_iff.1 h.markerValue, conflictRetries_eq_ok_iff.1 h.maxConflictRetries,
      seconds_eq_ok_iff.1 h.retryBackoff, seconds_eq_ok_iff.1 h.rejectedBackoff,
      webhookConfig_eq_ok_iff.1 h.webhook, format_eq_ok_iff.1 h.logFormat⟩
  · intro h
    exact ⟨nonEmpty_eq_ok_iff.2 h.guardToken, nonEmpty_eq_ok_iff.2 h.markerKey,
      nonEmpty_eq_ok_iff.2 h.markerValue, conflictRetries_eq_ok_iff.2 h.maxConflictRetries,
      seconds_eq_ok_iff.2 h.retryBackoff, seconds_eq_ok_iff.2 h.rejectedBackoff,
      webhookConfig_eq_ok_iff.2 h.webhook, format_eq_ok_iff.2 h.logFormat⟩

/-! ## The rules -/

/-- A variable is within its rule if it is unset or set to a text that it admits. -/
def Keeps (vars : Variables) (v : Variable) : Prop := ∀ raw, vars v = some raw → v.Admits raw

/-- There is a value to be had from a variable within its rule, and only from there. -/
theorem exists_own_iff {α : Type} {d : α} {reads : String → α → Prop} {v : Variable}
    (hreads : ∀ raw, (∃ a, reads raw a) ↔ v.Admits raw) :
    (∃ a, Own (vars v) d reads a) ↔ Keeps vars v := by
  unfold Keeps
  cases vars v with
  | none => simp
  | some raw => simp [hreads]

/-- A text is any that is not empty. -/
theorem exists_isText_iff {raw : String} : (∃ s, IsText raw s) ↔ raw ≠ "" := by simp [IsText]

/-- A count is read from what its variable admits. -/
theorem exists_isCount_iff {raw : String} :
    (∃ n, IsCount raw n) ↔ Variable.Admits .maxConflictRetries raw := by
  constructor
  · rintro ⟨n, hn⟩
    exact ⟨n.toNat, hn, n.toNat_lt⟩
  · rintro ⟨n, hn, hlt⟩
    exact ⟨UInt32.ofNat n, by rwa [IsCount, UInt32.toNat_ofNat_of_lt' hlt]⟩

/-- Seconds are read from the numerals of positive numbers of 64 bits. -/
theorem exists_isSeconds_iff {raw : String} :
    (∃ d, IsSeconds raw d) ↔ ∃ n, StandsFor raw n ∧ 1 ≤ n ∧ n < 2 ^ 64 := by
  constructor
  · rintro ⟨d, n, hn, hone, hlt, -⟩
    exact ⟨n, hn, hone, hlt⟩
  · rintro ⟨n, hn, hone, hlt⟩
    exact ⟨.ofSeconds n, n, hn, hone, hlt, rfl⟩

/-- A format is read from what its variable admits. -/
theorem exists_isFormat_iff {raw : String} :
    (∃ f, IsFormat raw f) ↔ Variable.Admits .logFormat raw := by
  constructor
  · rintro ⟨_ | _, h⟩
    · exact Or.inl h
    · exact Or.inr h
  · rintro (h | h)
    · exact ⟨.json, h⟩
    · exact ⟨.pretty, h⟩

/-- The variables that are looked at: all but the token, and the webhook's timeout only with its
address. -/
def IsJudged (vars : Variables) (v : Variable) : Prop :=
  v ≠ .webhookToken ∧ (v = .webhookTimeout → vars .webhookUrl ≠ none)

/-- There are settings of the webhook to be had if its address is within its rule and, where there
is an address, its timeout is so too. -/
theorem exists_webhook_iff :
    (∃ w, Own (vars .webhookUrl) none (IsWebhook vars) w) ↔
      Keeps vars .webhookUrl ∧ (vars .webhookUrl ≠ none → Keeps vars .webhookTimeout) := by
  rw [← exists_own_iff (v := .webhookTimeout) (d := .ofSeconds 10) fun _ => exists_isSeconds_iff]
  unfold Keeps
  cases vars .webhookUrl with
  | none => simp
  | some url =>
    simp only [own_some, ne_eq, reduceCtorEq, not_false_eq_true, true_imp_iff]
    constructor
    · rintro ⟨w, haddress, _, -, timeout, htimeout, -⟩
      exact ⟨fun _ h => Option.some.inj h ▸ haddress, timeout, htimeout⟩
    · rintro ⟨haddress, timeout, htimeout⟩
      exact ⟨_, haddress url rfl, _, eq_token_iff.1 rfl, timeout, htimeout, rfl⟩

/-- Settings are loaded if every variable that is looked at is within its rule, and only then. -/
theorem exists_load_eq_ok_iff :
    (∃ s, load vars = .ok s) ↔ ∀ v, IsJudged vars v → Keeps vars v := by
  simp only [load_eq_ok_iff_ownValues]
  constructor
  · rintro ⟨s, h⟩ v ⟨htoken, htimeout⟩
    have hwebhook := exists_webhook_iff.1 ⟨_, h.webhook⟩
    cases v with
    | guardToken => exact (exists_own_iff fun _ => exists_isText_iff).1 ⟨_, h.guardToken⟩
    | markerKey => exact (exists_own_iff fun _ => exists_isText_iff).1 ⟨_, h.markerKey⟩
    | markerValue => exact (exists_own_iff fun _ => exists_isText_iff).1 ⟨_, h.markerValue⟩
    | maxConflictRetries =>
      exact (exists_own_iff fun _ => exists_isCount_iff).1 ⟨_, h.maxConflictRetries⟩
    | retryBackoff => exact (exists_own_iff fun _ => exists_isSeconds_iff).1 ⟨_, h.retryBackoff⟩
    | rejectedBackoff =>
      exact (exists_own_iff fun _ => exists_isSeconds_iff).1 ⟨_, h.rejectedBackoff⟩
    | webhookUrl => exact hwebhook.1
    | webhookToken => exact absurd rfl htoken
    | webhookTimeout => exact hwebhook.2 (htimeout rfl)
    | logFormat => exact (exists_own_iff fun _ => exists_isFormat_iff).1 ⟨_, h.logFormat⟩
  · intro h
    have hplain (v : Variable) (h₁ : v ≠ .webhookToken) (h₂ : v ≠ .webhookTimeout) : Keeps vars v :=
      h v ⟨h₁, fun heq => absurd heq h₂⟩
    obtain ⟨guardToken, hguardToken⟩ := (exists_own_iff fun _ => exists_isText_iff).2
      (hplain .guardToken nofun nofun)
    obtain ⟨markerKey, hmarkerKey⟩ := (exists_own_iff fun _ => exists_isText_iff).2
      (hplain .markerKey nofun nofun)
    obtain ⟨markerValue, hmarkerValue⟩ := (exists_own_iff fun _ => exists_isText_iff).2
      (hplain .markerValue nofun nofun)
    obtain ⟨retries, hretries⟩ := (exists_own_iff fun _ => exists_isCount_iff).2
      (hplain .maxConflictRetries nofun nofun)
    obtain ⟨retryBackoff, hretryBackoff⟩ := (exists_own_iff fun _ => exists_isSeconds_iff).2
      (hplain .retryBackoff nofun nofun)
    obtain ⟨rejectedBackoff, hrejectedBackoff⟩ := (exists_own_iff fun _ => exists_isSeconds_iff).2
      (hplain .rejectedBackoff nofun nofun)
    obtain ⟨webhook, hwebhook⟩ := exists_webhook_iff.2
      ⟨hplain .webhookUrl nofun nofun, fun hurl => h .webhookTimeout ⟨nofun, fun _ => hurl⟩⟩
    obtain ⟨logFormat, hlogFormat⟩ := (exists_own_iff fun _ => exists_isFormat_iff).2
      (hplain .logFormat nofun nofun)
    exact ⟨⟨⟨guardToken, markerKey, markerValue⟩, retries, retryBackoff, rejectedBackoff, webhook,
      logFormat⟩, hguardToken, hmarkerKey, hmarkerValue, hretries, hretryBackoff, hrejectedBackoff,
      hwebhook, hlogFormat⟩

/-- A timeout of zero seconds is not admitted. -/
theorem not_admits_webhookTimeout_zero : ¬Variable.Admits .webhookTimeout "0" := by
  rintro ⟨n, hn, hone, hlt⟩
  have hread : readNumeral (2 ^ 64 - 1) "0" = some n :=
    readNumeral_eq_some_iff.2 ⟨hn, Nat.le_pred_of_lt hlt⟩
  obtain rfl := Option.some.inj hread
  exact absurd hone (by decide)

/-- A variable that is set to something outside its rule is refused, whatever the other variables
hold; a timeout is judged where there is an address. Only the token has no rule: an empty one counts
as none. Variables within their rules are never refused. Each field of settings that were loaded is
the value of its own variable, or the default where that is unset. -/
theorem values_are_judged_by_rule (vars : Variables) :
    (∀ v raw, vars v = some raw → ¬v.Admits raw → v ≠ .webhookToken →
      (v = .webhookTimeout → vars .webhookUrl ≠ none) → ∃ fault, load vars = .error fault) ∧
    ((∀ v raw, vars v = some raw → v ≠ .webhookToken → v.Admits raw) → ∃ s, load vars = .ok s) ∧
    ∀ s, load vars = .ok s → OwnValues vars s := by
  refine ⟨fun v raw hraw hrule htoken htimeout => ?_, fun h => ?_,
    fun s => load_eq_ok_iff_ownValues.1⟩
  · cases hload : load vars with
    | error fault => exact ⟨fault, rfl⟩
    | ok s => exact absurd (exists_load_eq_ok_iff.1 ⟨s, hload⟩ v ⟨htoken, htimeout⟩ raw hraw) hrule
  · exact exists_load_eq_ok_iff.2 fun v hv raw hraw => h v raw hraw hv.1

/-- A delay with a sign and a leading zero is taken, and so is a format in capital letters, next to
an empty token. A timeout of zero seconds is refused where there is an address. -/
theorem webhook_values_are_judged_by_rule :
    let within := Variables.ofDictionary (.ofList
      [("NOTIFIER_LOG_FORMAT", "JSON"), ("NOTIFIER_RETRY_BACKOFF_SECS", "+05"),
        ("NOTIFIER_WEBHOOK_TOKEN", ""), ("NOTIFIER_WEBHOOK_URL", "http://h.example/x")])
    let outside := Variables.ofDictionary (.ofList
      [("NOTIFIER_WEBHOOK_TIMEOUT_SECS", "0"), ("NOTIFIER_WEBHOOK_URL", "http://h.example/x")])
    (∃ s, load within = .ok s ∧ OwnValues within s) ∧ ∃ fault, load outside = .error fault := by
  intro within outside
  constructor
  · have hrules : ∀ v raw, within v = some raw → v ≠ .webhookToken → v.Admits raw := by
      intro v raw hraw htoken
      cases v with
      | retryBackoff =>
        obtain rfl := Option.some.inj hraw
        have hread : readNumeral 5 "+05" = some 5 := by decide
        exact ⟨5, (readNumeral_eq_some_iff.1 hread).1, by decide, by decide⟩
      | webhookUrl =>
        obtain rfl := Option.some.inj hraw
        exact ⟨'h', by decide, by decide⟩
      | logFormat =>
        obtain rfl := Option.some.inj hraw
        exact exists_isFormat_iff.1 ⟨.json, isFormat_iff.2 (by decide)⟩
      | webhookToken => exact absurd rfl htoken
      | _ => cases hraw
    obtain ⟨-, hload, hvalues⟩ := values_are_judged_by_rule within
    obtain ⟨s, hs⟩ := hload hrules
    exact ⟨s, hs, hvalues s hs⟩
  · exact (values_are_judged_by_rule outside).1 .webhookTimeout "0" (by decide)
      not_admits_webhookTimeout_zero nofun fun _ => by decide

/-- Not every text outside a rule is refused: an empty token is not, nor a timeout of zero seconds
without an address. -/
theorem empty_token_and_idle_timeout_pass :
    let emptyToken := Variables.ofDictionary (.ofList
      [("NOTIFIER_WEBHOOK_TOKEN", ""), ("NOTIFIER_WEBHOOK_URL", "http://h.example/x")])
    let idleTimeout := Variables.ofDictionary (.ofList [("NOTIFIER_WEBHOOK_TIMEOUT_SECS", "0")])
    (emptyToken .webhookToken = some "" ∧ ¬Variable.Admits .webhookToken "" ∧
      ∃ s, load emptyToken = .ok s) ∧
    (idleTimeout .webhookTimeout = some "0" ∧ ¬Variable.Admits .webhookTimeout "0" ∧
      ∃ s, load idleTimeout = .ok s) ∧
    ¬∀ vars v raw, vars v = some raw → ¬v.Admits raw → ∃ fault, load vars = .error fault := by
  intro emptyToken idleTimeout
  have hset : emptyToken .webhookToken = some "" := by decide
  have hempty : ¬Variable.Admits .webhookToken "" := by simp [Variable.Admits]
  have hload : ∃ s, load emptyToken = .ok s := ⟨_, rfl⟩
  refine ⟨⟨hset, hempty, hload⟩, ⟨by decide, not_admits_webhookTimeout_zero, _, rfl⟩, fun h => ?_⟩
  obtain ⟨fault, hfault⟩ := h emptyToken .webhookToken "" hset hempty
  obtain ⟨s, hs⟩ := hload
  rw [hs] at hfault
  cases hfault

end Settings

end RunHerald
