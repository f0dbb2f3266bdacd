import RunHerald.Proofs.Reconcile.Likeness
import RunHerald.Proofs.Rehearsal.WireFrame
import RunHerald.Proofs.Webhook.DeliveryLoop
import RunHerald.Webhook.Setup

/-!
# The token stays secret

`withToken` exchanges the token of a webhook in its settings. Loading settings, describing them and
setting up a service from them commute with that exchange (`load_withToken`, `describe_withToken`,
`setUp_withToken`): nothing that they show depends on the token.

What a delivery makes of the answers to its requests does not depend on the token either, if it can
be sent (`deliver_alike`). So two worlds that differ in the token, and in the authorization of the
requests that have arrived, stay so during every invocation (`alike_environment`): everything else
that can be seen is the same in both.
-/

set_option autoImplicit false

namespace RunHerald

/-! ## Exchanging the token -/

/-- The settings of a webhook with another token. -/
def WebhookConfig.withToken (token : String) (c : WebhookConfig) : WebhookConfig :=
  { c with bearerToken := some ⟨token⟩ }

/-- The webhook with another token. -/
def WebhookSink.withToken (token : String) (sink : WebhookSink) : WebhookSink :=
  { sink with config := sink.config.withToken token }

/-- The service with another token for its webhook. -/
def Service.withToken (token : String) (v : Service) : Service :=
  { v with sink := v.sink.withToken token }

namespace Settings

/-- The settings with another token for the webhook, if there is one. -/
def withToken (token : String) (s : Settings) : Settings :=
  { s with webhook := s.webhook.map (WebhookConfig.withToken token) }

section Load

variable {vars vars' : Variables} {token : String}

/-- Variables that are equal but for the token give the same webhook but for the token. -/
theorem webhookConfig_withToken (hsame : ∀ v, v ≠ .webhookToken → vars v = vars' v)
    (htoken : vars' .webhookToken = some token) (hne : token ≠ "") :
    webhookConfig vars' =
      (webhookConfig vars).map (Option.map (WebhookConfig.withToken token)) := by
  have hurl : vars .webhookUrl = vars' .webhookUrl := hsame _ (by decide)
  have htimeout : seconds vars' .webhookTimeout 10 = seconds vars .webhookTimeout 10 := by
    unfold seconds
    rw [hsame _ (by decide)]
  have hread : Settings.token vars' = some ⟨token⟩ := by simp [Settings.token, htoken, hne]
  unfold webhookConfig
  rw [hurl, htimeout, hread]
  cases vars' .webhookUrl with
  | none => rfl
  | some url =>
    simp only
    split
    · rfl
    · cases seconds vars .webhookTimeout 10 <;> rfl

/-- Variables that are equal but for the token give the same settings but for the token. -/
theorem load_withToken (hsame : ∀ v, v ≠ .webhookToken → vars v = vars' v)
    (htoken : vars' .webhookToken = some token) (hne : token ≠ "") :
    load vars' = (load vars).map (withToken token) := by
  have hnonEmpty : ∀ v default, v ≠ .webhookToken →
      nonEmpty vars' v default = nonEmpty vars v default := by
    intro v default hv
    unfold nonEmpty
    rw [hsame v hv]
  have hseconds : ∀ v default, v ≠ .webhookToken →
      seconds vars' v default = seconds vars v default := by
    intro v default hv
    unfold seconds
    rw [hsame v hv]
  have hretries : conflictRetries vars' = conflictRetries vars := by
    unfold conflictRetries
    rw [hsame _ (by decide)]
  have hformat : format vars' = format vars := by
    unfold format
    rw [hsame _ (by decide)]
  unfold load
  rw [hnonEmpty _ _ (by decide), hnonEmpty _ _ (by decide), hnonEmpty _ _ (by decide), hretries,
    hseconds _ _ (by decide), hseconds _ _ (by decide), hformat,
    webhookConfig_withToken hsame htoken hne]
  -- the first fault ends both
  rcases nonEmpty vars .guardToken _ with _ | guardToken
  · rfl
  rcases nonEmpty vars .markerKey _ with _ | markerKey
  · rfl
  rcases nonEmpty vars .markerValue _ with _ | markerValue
  · rfl
  rcases conflictRetries vars with _ | maxConflictRetries
  · rfl
  rcases seconds vars .retryBackoff 30 with _ | retryBackoff
  · rfl
  rcases seconds vars .rejectedBackoff 300 with _ | rejectedBackoff
  · rfl
  rcases webhookConfig vars with _ | webhook
  · rfl
  cases format vars <;> rfl

end Load

/-- The description of settings does not depend on the token. -/
theorem describe_withToken (s : Settings) (token token' : String) :
    (s.withToken token).describe = (s.withToken token').describe := by
  unfold describe withToken
  cases s.webhook <;> rfl

end Settings

namespace WebhookSink

/-- A webhook is set up alike, whatever the token. -/
theorem setUp_withToken (config : WebhookConfig) (token : String) :
    setUp (config.withToken token) = (setUp config).map (withToken token) := by
  have hattempts : (config.withToken token).maxAttempts = config.maxAttempts := rfl
  have hurl : (config.withToken token).url = config.url := rfl
  simp only [setUp, hurl, hattempts]
  cases Url.parse config.url with
  | error e => rfl
  | ok url =>
    simp only
    split
    · rfl
    · split <;> rfl

end WebhookSink

/-- A service is set up alike, whatever the token. -/
theorem Settings.setUp_withToken (s : Settings) (token : String) :
    (s.withToken token).setUp = s.setUp.map (Service.withToken token) := by
  obtain ⟨markers, conflicts, retry, rejected, webhook, format⟩ := s
  cases webhook with
  | none => rfl
  | some config =>
    simp only [setUp, neededWebhook, withToken, Option.map_some, WebhookSink.setUp_withToken]
    cases WebhookSink.setUp config <;> rfl

/-! ## Deliveries -/

/-- A request without its authorization. -/
def Request.bare (q : Request) : Request := { q with authorization := [] }

/-- A receiver answers requests alike that differ in their authorization only, and its states stay
related. -/
def AnswersAlike {σ : Type} (exchange : Request → σ → Exchange × σ) (R : σ → σ → Prop) : Prop :=
  ∀ q q' s s', q.bare = q'.bare → R s s' →
    (exchange q s).1 = (exchange q' s').1 ∧ R (exchange q s).2 (exchange q' s').2

namespace WebhookSink

variable {σ : Type} {exchange : Request → σ → Exchange × σ} {R : σ → σ → Prop}
  {token token' : String}

/-- The requests for a payload with two tokens that can be sent differ in the authorization only,
and none can be made for the same reason. -/
theorem request_alike (sink : WebhookSink) (htoken : isHeaderText token = true)
    (htoken' : isHeaderText token' = true) (payload : Payload) :
    (∃ fault, (sink.withToken token).request payload = .error fault ∧
        (sink.withToken token').request payload = .error fault) ∨
      ∃ q q', (sink.withToken token).request payload = .ok q ∧
        (sink.withToken token').request payload = .ok q' ∧ q.bare = q'.bare := by
  have hany : ∀ t, isHeaderText t = true →
      ((sink.withToken t).config.bearerToken.any fun t => ¬ isHeaderText t.expose) = false := by
    intro t ht
    simp [withToken, WebhookConfig.withToken, ht]
  have hendpoint : ∀ t, (sink.withToken t).endpoint = sink.endpoint := fun _ => rfl
  simp only [WebhookSink.request, hany token htoken, hany token' htoken', hendpoint]
  by_cases hhead : ¬ isHeaderText payload.fingerprint = true ∨ false = true
  · simp only [if_pos hhead]
    exact Or.inl ⟨_, rfl, rfl⟩
  · simp only [if_neg hhead]
    by_cases hfirst : ¬ sink.endpoint.requested.isRequestable = true
    · simp only [if_pos hfirst]
      exact Or.inl ⟨_, rfl, rfl⟩
    · simp only [if_neg hfirst]
      exact Or.inr ⟨_, _, rfl, rfl, rfl⟩

/-- A verdict does not depend on the authorization. -/
theorem verdict_of_bare {q q' : Request} (h : q.bare = q'.bare) (x : Exchange) :
    verdict q x = verdict q' x := by
  have hurl : q.url = q'.url := by
    change q.bare.url = q'.bare.url
    rw [h]
  have hfailure : sendFailure q = sendFailure q' := by
    unfold sendFailure
    rw [hurl]
  cases x with
  | answered status body => rfl
  | failed => rw [verdict, verdict, hfailure]
  | timedOut => rw [verdict, verdict, hfailure]

/-- An attempt comes to the same with every token that can be sent. -/
theorem attempt_alike (sink : WebhookSink) (h : AnswersAlike exchange R)
    (htoken : isHeaderText token = true) (htoken' : isHeaderText token' = true) (payload : Payload)
    {s s' : σ} (hR : R s s') :
    ∃ result t t', (sink.withToken token).attempt exchange payload s = (result, t) ∧
      (sink.withToken token').attempt exchange payload s' = (result, t') ∧ R t t' := by
  rcases sink.request_alike htoken htoken' payload with
    ⟨fault, hfault, hfault'⟩ | ⟨q, q', hrequest, hrequest', hbare⟩
  · rw [attempt, attempt, hfault, hfault']
    exact ⟨_, _, _, rfl, rfl, hR⟩
  · obtain ⟨hanswer, hnext⟩ := h q q' s s' hbare hR
    rw [attempt, attempt, hrequest, hrequest']
    simp only [hanswer, verdict_of_bare hbare]
    exact ⟨_, _, _, rfl, rfl, hnext⟩

/-- From any attempt on, a delivery comes to the same with every token that can be sent. -/
theorem attemptFrom_alike (sink : WebhookSink) (h : AnswersAlike exchange R)
    (htoken : isHeaderText token = true) (htoken' : isHeaderText token' = true) (payload : Payload)
    (number left : Nat) {s s' : σ} (hR : R s s') :
    ((sink.withToken token).attemptFrom exchange payload number left s).1 =
        ((sink.withToken token').attemptFrom exchange payload number left s').1 ∧
      R ((sink.withToken token).attemptFrom exchange payload number left s).2
        ((sink.withToken token').attemptFrom exchange payload number left s').2 := by
  induction left generalizing number s s' with
  | zero =>
    obtain ⟨result, t, t', hattempt, hattempt', hnext⟩ :=
      sink.attempt_alike h htoken htoken' payload hR
    rw [attemptFrom_zero hattempt, attemptFrom_zero hattempt']
    exact ⟨rfl, hnext⟩
  | succ left ih =>
    obtain ⟨result, t, t', hattempt, hattempt', hnext⟩ :=
      sink.attempt_alike h htoken htoken' payload hR
    by_cases htransport : ∃ message, result = .error (.transport message)
    · obtain ⟨message, rfl⟩ := htransport
      rw [attemptFrom_of_transport hattempt, attemptFrom_of_transport hattempt']
      obtain ⟨hrest, hlast⟩ := ih (number + 1) hnext
      simp only [hrest]
      exact ⟨trivial, hlast⟩
    · have hlasting := fun message h => htransport ⟨message, h⟩
      rw [attemptFrom_of_lasting hattempt hlasting, attemptFrom_of_lasting hattempt' hlasting]
      exact ⟨rfl, hnext⟩

/-- A delivery has the same result and the same reports with every token that can be sent. -/
theorem deliver_alike (sink : WebhookSink) (h : AnswersAlike exchange R)
    (htoken : isHeaderText token = true) (htoken' : isHeaderText token' = true) (payload : Payload)
    {s s' : σ} (hR : R s s') :
    ((sink.withToken token).deliver exchange payload s).1 =
        ((sink.withToken token').deliver exchange payload s').1 ∧
      R ((sink.withToken token).deliver exchange payload s).2
        ((sink.withToken token').deliver exchange payload s').2 :=
  sink.attemptFrom_alike h htoken htoken' payload 1 _ hR

end WebhookSink

/-- Two states of a receiver that differ in the authorization of the requests only. -/
structure Receiver.Alike (a b : Receiver) : Prop where
  reachable : a.reachable = b.reachable
  script : a.script = b.script
  requests : a.requests.map Request.bare = b.requests.map Request.bare

/-- A receiver that goes by its script does not look at the authorization. -/
theorem Receiver.answersAlike_exchange (timeout : Duration) :
    AnswersAlike (Receiver.exchange timeout) Receiver.Alike := by
  rintro q q' ⟨reachable, script, requests⟩ ⟨_, _, requests'⟩ hq ⟨rfl, rfl, hrequests⟩
  have hrequests' : (requests ++ [q]).map Request.bare = (requests' ++ [q']).map Request.bare := by
    rw [List.map_append, List.map_append, hrequests, List.map_singleton, List.map_singleton, hq]
  cases reachable with
  | false => exact ⟨rfl, rfl, rfl, hrequests⟩
  | true => cases script <;> exact ⟨rfl, rfl, rfl, hrequests'⟩

/-! ## Worlds -/

namespace World

variable {ι : Type}

/-- Two worlds that differ in the token of the webhook, and in the authorization of the requests
that have arrived. -/
inductive AlikeButToken (sink : WebhookSink) (token token' : String) : World ι → World ι → Prop
  | mk (w : World ι) (a b : Receiver) (h : a.Alike b) :
    AlikeButToken sink token token' (w.withWire (some ⟨sink.withToken token, a⟩))
      (w.withWire (some ⟨sink.withToken token', b⟩))

/-- What ignores the wire does the same in two such worlds, and they stay such. -/
theorem IgnoresWire.alike {α : Type} {f : World ι → α × World ι} (hf : IgnoresWire f)
    {sink : WebhookSink} {token token' : String} {w w' : World ι}
    (h : AlikeButToken sink token token' w w') :
    (f w).1 = (f w').1 ∧ AlikeButToken sink token token' (f w).2 (f w').2 := by
  cases h with
  | mk w a b h =>
    rw [hf, hf]
    exact ⟨rfl, .mk _ a b h⟩

/-- A delivery through a webhook reports what the webhook does and leaves its receiver behind. -/
theorem deliver_withWire (w : World ι) (wire : Wire) (payload : Payload) :
    let out := wire.sink.deliver (Receiver.exchange wire.sink.config.requestTimeout) payload
      wire.receiver
    (w.withWire (some wire)).deliver payload =
      (.result out.1.1, ({ w with events := w.events ++ out.1.2.map Event.report } : World ι).withWire
        (some { wire with receiver := out.2 })) := rfl

/-- The requests that have arrived at the receiver of the webhook. -/
def requests (w : World ι) : List Request :=
  match w.wire with
  | none => []
  | some wire => wire.receiver.requests

variable [Interference ι]

/-- Two such worlds are alike as environments, if both tokens can be sent. -/
theorem alike_environment (sink : WebhookSink) {token token' : String}
    (htoken : WebhookSink.isHeaderText token = true)
    (htoken' : WebhookSink.isHeaderText token' = true) :
    environment.Alike environment (AlikeButToken (ι := ι) sink token token') where
  cancelled := by
    rintro _ _ ⟨⟩
    rfl
  now := by
    rintro _ _ ⟨⟩
    rfl
  emit := by
    rintro e _ _ ⟨w, a, b, h⟩
    exact .mk { w with events := w.events ++ [e] } a b h
  fetch := fun key _ _ h => (ignoresWire_fetch key).alike h
  patch := fun key expected p _ _ h => (ignoresWire_patch key expected p).alike h
  deliver := by
    rintro payload _ _ ⟨w, a, b, h⟩
    obtain ⟨hresult, hreceiver⟩ :=
      sink.deliver_alike (Receiver.answersAlike_exchange sink.config.requestTimeout) htoken htoken'
        payload h
    have htimeout : ∀ token, (sink.withToken token).config.requestTimeout =
        sink.config.requestTimeout := fun _ => rfl
    simp only [environment, deliver_withWire, htimeout, hresult]
    exact ⟨trivial, .mk _ _ _ hreceiver⟩

/-- Runs invocations one after the other, each for a key and with a token that may have been
cancelled before. -/
def reconcileAll (r : Reconciler) : List (RunKey × Bool) → World ι → List Ending × World ι
  | [], w => ([], w)
  | (key, cancelled) :: calls, w =>
    let (ending, w) := w.reconcile r key cancelled
    let (endings, w) := reconcileAll r calls w
    (ending :: endings, w)

/-- An invocation ends alike in two such worlds, and leaves such worlds behind. -/
theorem reconcile_alike (sink : WebhookSink) {token token' : String}
    (htoken : WebhookSink.isHeaderText token = true)
    (htoken' : WebhookSink.isHeaderText token' = true) (r : Reconciler) (key : RunKey)
    (cancelled : Bool) {w w' : World ι} (h : AlikeButToken sink token token' w w') :
    (w.reconcile r key cancelled).1 = (w'.reconcile r key cancelled).1 ∧
      AlikeButToken sink token token' (w.reconcile r key cancelled).2
        (w'.reconcile r key cancelled).2 := by
  refine (alike_environment sink htoken htoken').reconcile_alike r key ?_
  cases h with
  | mk w a b h => exact .mk { w with held := true, cancelled } a b h

/-- All invocations end alike in two worlds that differ in the token, and leave such worlds
behind. -/
theorem reconcileAll_alike (sink : WebhookSink) {token token' : String}
    (htoken : WebhookSink.isHeaderText token = true)
    (htoken' : WebhookSink.isHeaderText token' = true) (r : Reconciler)
    (calls : List (RunKey × Bool)) {w w' : World ι} (h : AlikeButToken sink token token' w w') :
    (reconcileAll r calls w).1 = (reconcileAll r calls w').1 ∧
      AlikeButToken sink token token' (reconcileAll r calls w).2 (reconcileAll r calls w').2 := by
  induction calls generalizing w w' with
  | nil => exact ⟨rfl, h⟩
  | cons call calls ih =>
    obtain ⟨hending, hnext⟩ := reconcile_alike sink htoken htoken' r call.1 call.2 h
    obtain ⟨hendings, hlast⟩ := ih hnext
    exact ⟨congrArg₂ List.cons hending hendings, hlast⟩

end World

/-! ## What can be seen -/

/-- The same error, or two values that are alike. -/
inductive AlikeResult {ε α : Type} (R : α → α → Prop) : Except ε α → Except ε α → Prop
  | error (e : ε) : AlikeResult R (.error e) (.error e)
  | ok (a b : α) (h : R a b) : AlikeResult R (.ok a) (.ok b)

/-- Two runs that show the same, but for the authorization of the requests. -/
structure SameRun {ι : Type} (out out' : List Ending × World ι) : Prop where
  endings : out.1 = out'.1
  /-- What is logged and what is counted. -/
  events : out.2.events = out'.2.events
  store : out.2.store = out'.2.store
  requests : out.2.requests.map Request.bare = out'.2.requests.map Request.bare

/-- Two services whose invocations show the same in every world, whatever others do to its records,
and with every script of the receiver. -/
def Service.RunsAlike (v v' : Service) : Prop :=
  ∀ (ι : Type) [Interference ι] (w : World ι) (receiver : Receiver) (calls : List (RunKey × Bool)),
    SameRun (World.reconcileAll v.reconciler calls (w.withWire (some ⟨v.sink, receiver⟩)))
      (World.reconcileAll v'.reconciler calls (w.withWire (some ⟨v'.sink, receiver⟩)))

/-- Worlds that differ in the token show the same. -/
theorem World.AlikeButToken.sameRun {ι : Type} {sink : WebhookSink} {token token' : String}
    {out out' : List Ending × World ι} (hendings : out.1 = out'.1)
    (h : AlikeButToken sink token token' out.2 out'.2) : SameRun out out' := by
  obtain ⟨endings, w⟩ := out
  obtain ⟨endings', w'⟩ := out'
  obtain rfl : endings = endings' := hendings
  cases h with
  | mk w a b h => exact ⟨rfl, rfl, rfl, h.requests⟩

/-- A service runs alike with all tokens that can be sent. -/
theorem Service.runsAlike_withToken (v : Service) {token token' : String}
    (htoken : WebhookSink.isHeaderText token = true)
    (htoken' : WebhookSink.isHeaderText token' = true) :
    (v.withToken token).RunsAlike (v.withToken token') := by
  intro ι _ w receiver calls
  obtain ⟨hendings, halike⟩ :=
    World.reconcileAll_alike v.sink htoken htoken' v.reconciler calls
      (.mk w receiver receiver ⟨rfl, rfl, rfl⟩)
  exact halike.sameRun hendings

/-- Variables that are equal but for two tokens show the same: the same error, or settings and
services that are described alike. If both tokens can be sent, the services run alike too. -/
theorem bearer_token_does_not_leak {vars vars' : Variables} {token token' : String}
    (hsame : ∀ v, v ≠ .webhookToken → vars v = vars' v)
    (htoken : vars .webhookToken = some token) (htoken' : vars' .webhookToken = some token')
    (hne : token ≠ "") (hne' : token' ≠ "") :
    AlikeResult
      (fun s s' => s.describe = s'.describe ∧
        AlikeResult
          (fun v v' => v.reconciler.describe = v'.reconciler.describe ∧
            (WebhookSink.isHeaderText token = true → WebhookSink.isHeaderText token' = true →
              v.RunsAlike v'))
          s.setUp s'.setUp)
      (Settings.load vars) (Settings.load vars') := by
  have hload := Settings.load_withToken (fun _ _ => rfl) htoken hne
  have hload' := Settings.load_withToken hsame htoken' hne'
  cases hs : Settings.load vars with
  | error fault =>
    rw [hs] at hload'
    rw [hload']
    exact .error fault
  | ok s =>
    rw [hs] at hload hload'
    -- the settings that were loaded have the first token already
    have hself : s = s.withToken token := Except.ok.inj hload
    have hdescribe := (congrArg Settings.describe hself).trans (s.describe_withToken token token')
    have hsetUp := (congrArg Settings.setUp hself).trans (s.setUp_withToken token)
    rw [hload']
    refine .ok s (s.withToken token') ⟨hdescribe, ?_⟩
    rw [s.setUp_withToken token']
    cases hv : s.setUp with
    | error e => exact .error e
    | ok v =>
      rw [hv] at hsetUp
      have hown : v = v.withToken token := Except.ok.inj hsetUp
      refine .ok v (v.withToken token') ⟨rfl, fun hheader hheader' => ?_⟩
      have halike := v.runsAlike_withToken hheader hheader'
      rw [← hown] at halike
      exact halike

/-- Two services with their own tokens for one address run alike. -/
theorem bearer_token_does_not_leak_at_address :
    let vars (token : String) : Variables := fun v =>
      if v = .webhookUrl then some "http://10.0.0.1/hook"
      else if v = .webhookToken then some token else none
    ∃ s s' v v', Settings.load (vars "alpha") = .ok s ∧ Settings.load (vars "beta") = .ok s' ∧
      s.setUp = .ok v ∧ s'.setUp = .ok v' ∧
      v.sink.config.bearerToken = some ⟨"alpha"⟩ ∧ v'.sink.config.bearerToken = some ⟨"beta"⟩ ∧
      s.describe = s'.describe ∧ v.RunsAlike v' := by
  intro vars
  let s : Settings := ⟨.standard, 3, .ofSeconds 30, .ofSeconds 300,
    some (.new "http://10.0.0.1/hook"), .pretty⟩
  have hload : Settings.load (vars "alpha") = .ok (s.withToken "alpha") := rfl
  have hload' : Settings.load (vars "beta") = .ok (s.withToken "beta") := rfl
  have hok : s.setUp.isOk = true := by decide +kernel
  obtain ⟨v, hv⟩ : ∃ v, s.setUp = .ok v := by
    cases hv : s.setUp with
    | error e =>
      rw [hv] at hok
      cases hok
    | ok v => exact ⟨v, rfl⟩
  have hsetUp : ∀ token, (s.withToken token).setUp = .ok (v.withToken token) := by
    intro token
    rw [s.setUp_withToken, hv]
    rfl
  have hsame : ∀ v, v ≠ .webhookToken → vars "alpha" v = vars "beta" v := by
    intro v hv
    simp only [vars, if_neg hv]
  have halike := bearer_token_does_not_leak hsame rfl rfl (by decide) (by decide)
  rw [hload, hload'] at halike
  cases halike with
  | ok _ _ h =>
    obtain ⟨hdescribe, hservices⟩ := h
    rw [hsetUp, hsetUp] at hservices
    cases hservices with
    | ok _ _ h =>
      exact ⟨s.withToken "alpha", s.withToken "beta", v.withToken "alpha", v.withToken "beta",
        hload, hload', hsetUp _, hsetUp _, rfl, rfl, hdescribe, h.2 (by decide) (by decide)⟩

end RunHerald
