import RunHerald.Proofs.Reconcile.Stages
import RunHerald.Proofs.Store.History

/-!
# Interleaved invocations

A `System` is one store, any number of invocations, each of any reconciler and for any key, and a
log of the calls that they have made. An `Act` lets one thing happen: an invocation begins, makes
its next call, or crashes, or somebody else makes a call of the store. A list of acts in any order
is a history of the system, and `run` is the system after it.

What a step meets is left open by its `Chance`: whether the invocation finds itself cancelled, the
time, whether the store fails, and how the sink answers. So a theorem about every list of acts
covers every order of the steps, every failure and every cancellation.

What one act can do is said once: `Effect` lists every way in which an act can go, and `step_effect`
says that there are no others. An invocation that is not disturbed does in this system what
`Reconciler.reconcile` does on its own: `exists_run_of_reconcile`.
-/

set_option autoImplicit false

namespace RunHerald

/-- A call that an invocation has made, with its answer. -/
inductive Call where
  | fetch (key : RunKey) (answer : Attempt (Option Snapshot))
  | deliver (payload : Payload) (answer : Delivery)
  | patch (key : RunKey) (expected : String) (p : Patch) (answer : Attempt PatchResult)

/-- The calls of all invocations in their order, each with the number of its invocation. -/
abbrev CallLog := List (Nat × Call)

/-- The sink has accepted a payload with these results for this key from an invocation. -/
def CallLog.Accepted (log : CallLog) (id : Nat) (key : RunKey) (rs : List RunResult) : Prop :=
  ∃ payload, (id, Call.deliver payload (.result (.ok ()))) ∈ log ∧
    payload.run = key ∧ payload.results = rs

/-- What the next call of an invocation meets. -/
structure Chance where
  cancelled : Bool
  now : Timestamp
  failure : Option ServiceError
  delivery : Delivery

namespace Chance

/-- Reads a record, unless the store fails. -/
def read (c : Chance) (store : Store) (key : RunKey) : Attempt (Option Snapshot) :=
  match c.failure with
  | some e => .failed e
  | none => .ofExcept (store.fetch key)

/-- Changes a record, unless the store fails. -/
def write (c : Chance) (store : Store) (key : RunKey) (expected : String) (p : Patch) :
    Attempt PatchResult × Store :=
  match c.failure with
  | some e => (.failed e, store)
  | none => (.ofExcept (store.patch key expected p).1, (store.patch key expected p).2)

/-- The environment of one call of an invocation: the store and the log. -/
def environment (c : Chance) (id : Nat) : Environment (Store × CallLog) where
  cancelled _ := c.cancelled
  now _ := c.now
  emit _ s := s
  fetch key s := (c.read s.1 key, s.1, s.2 ++ [(id, .fetch key (c.read s.1 key))])
  patch key expected p s :=
    let (answer, store) := c.write s.1 key expected p
    (answer, store, s.2 ++ [(id, .patch key expected p answer)])
  deliver payload s := (c.delivery, s.1, s.2 ++ [(id, .deliver payload c.delivery)])

/-- A change is either applied to a record with the expected version, or not applied and without any
effect. -/
theorem write_cases (c : Chance) (s : Store) (key : RunKey) (expected : String) (p : Patch) :
    (∃ r, s.poisoned = false ∧ s.records.get? key = some r ∧ versionText r.version = expected ∧
      c.write s key expected p =
        (.done (.applied (versionText (s.lastVersion + 1))), s.writeBack key (p.apply r.run))) ∨
    ((∀ version, (c.write s key expected p).1 ≠ .done (.applied version)) ∧
      (c.write s key expected p).2 = s) := by
  unfold write
  cases c.failure with
  | some e => exact Or.inr ⟨by simp, rfl⟩
  | none =>
    have he := Store.perform_effect s (.patch key expected p)
    simp only [Store.perform] at he
    generalize (s.patch key expected p).1 = result at he
    generalize (s.patch key expected p).2 = s' at he
    cases he with
    | refused _ _ hp ha =>
      obtain rfl : .error Store.poisonError = result := Store.Answer.patched.inj ha
      exact Or.inr ⟨by simp [Attempt.ofExcept], rfl⟩
    | patchAbsent => exact Or.inr ⟨by simp [Attempt.ofExcept], rfl⟩
    | patchConflict => exact Or.inr ⟨by simp [Attempt.ofExcept], rfl⟩
    | patched _ _ _ r hp hr hv => exact Or.inl ⟨r, hp, hr, hv, rfl⟩

/-- Reports leave a system alone. -/
@[simp] theorem emitAll_environment (c : Chance) (id : Nat) (events : List Event)
    (s : Store × CallLog) : (c.environment id).emitAll events s = s := by
  unfold Environment.emitAll
  induction events with
  | nil => rfl
  | cons e events ih => exact ih

end Chance

/-- An invocation, with the call that it waits for unless it has ended or crashed. -/
structure Invocation where
  reconciler : Reconciler
  key : RunKey
  stage : Option Stage

/-- An invocation after a move. -/
def Invocation.moved (inv : Invocation) (move : Move) : Invocation :=
  { inv with stage := move.stage? }

/-- A store and the invocations that work on it. -/
structure System where
  store : Store
  invocations : List Invocation
  log : CallLog

/-- Something that happens to a system. -/
inductive Act where
  | start (r : Reconciler) (key : RunKey) (cancelled : Bool)
  | advance (id : Nat) (chance : Chance)
  | crash (id : Nat)
  | outside (op : Store.Operation)

namespace System

/-- The system before anything has happened. -/
def initial : System := ⟨.empty, [], []⟩

/-- The system after an invocation has performed the call that it waits for. -/
def proceed (s : System) (id : Nat) (inv : Invocation) (stage : Stage) (c : Chance) : System :=
  let (move, store, log) :=
    inv.reconciler.advance (c.environment id) inv.key stage (s.store, s.log)
  ⟨store, s.invocations.set id (inv.moved move), log⟩

/-- The system after an act. Invocations are numbered in the order in which they begin. -/
def step (s : System) : Act → System
  | .start r key cancelled =>
    let inv : Invocation := ⟨r, key, (Reconciler.resume .start cancelled).stage?⟩
    { s with invocations := s.invocations ++ [inv] }
  | .advance id c =>
    match s.invocations[id]? with
    | none => s
    | some inv =>
      match inv.stage with
      | none => s
      | some stage => s.proceed id inv stage c
  | .crash id =>
    match s.invocations[id]? with
    | none => s
    | some inv => { s with invocations := s.invocations.set id { inv with stage := none } }
  | .outside op => { s with store := (s.store.perform op).2 }

/-- The system after some acts. -/
def run (s : System) (acts : List Act) : System := acts.foldl step s

/-- Without acts a system is as it was. -/
@[simp] theorem run_nil (s : System) : s.run [] = s := rfl

/-- Acts are made one after another. -/
@[simp] theorem run_cons (s : System) (act : Act) (acts : List Act) :
    s.run (act :: acts) = (s.step act).run acts := rfl

/-- A longer history goes on where a shorter one ended. -/
theorem run_append (s : System) (acts acts' : List Act) :
    s.run (acts ++ acts') = (s.run acts).run acts' :=
  List.foldl_append

/-- An act applies the patch of an invocation to the record of a key. -/
def Applies (s : System) (act : Act) (id : Nat) (key : RunKey) (p : Patch) : Prop :=
  ∃ expected version,
    (s.step act).log = s.log ++ [(id, .patch key expected p (.done (.applied version)))]

/-! ## What one act can do -/

/-- A step that reads takes the answer of the store. -/
theorem proceed_fetch (s : System) (id : Nat) (inv : Invocation) (p : Progress) (c : Chance) :
    s.proceed id inv (.fetch p) c =
      let answer := c.read s.store inv.key
      ⟨s.store, s.invocations.set id (inv.moved (inv.reconciler.fetched p c.cancelled answer).2),
        s.log ++ [(id, .fetch inv.key answer)]⟩ := by
  simp only [proceed, Reconciler.advance, Chance.emitAll_environment]
  rfl

/-- A step that delivers takes the answer that chance gives. -/
theorem proceed_deliver (s : System) (id : Nat) (inv : Invocation) (p : Progress)
    (snapshot : Snapshot) (rs : List RunResult) (c : Chance) :
    s.proceed id inv (.deliver p snapshot rs) c =
      let payload := Payload.new inv.key rs c.now
      ⟨s.store,
        s.invocations.set id
          (inv.moved (inv.reconciler.delivered p snapshot payload c.delivery).2),
        s.log ++ [(id, .deliver payload c.delivery)]⟩ := by
  simp only [proceed, Reconciler.advance, Chance.emitAll_environment]
  rfl

/-- A step that changes the record takes the answer of the store. -/
theorem proceed_write (s : System) (id : Nat) (inv : Invocation) (p : Progress)
    (snapshot : Snapshot) (w : Write) (c : Chance) :
    s.proceed id inv (.write p snapshot w) c =
      let change := w.patch inv.reconciler.markers
      let result := c.write s.store inv.key snapshot.version change
      ⟨result.2,
        s.invocations.set id
          (inv.moved (inv.reconciler.written p c.cancelled snapshot w result.1).2),
        s.log ++ [(id, .patch inv.key snapshot.version change result.1)]⟩ := by
  simp only [proceed, Reconciler.advance, Chance.emitAll_environment]
  rfl

/-- Every way in which an act can go, with the system afterwards. -/
inductive Effect (s : System) : Act → System → Prop
  | started (r : Reconciler) (key : RunKey) (cancelled : Bool) :
    Effect s (.start r key cancelled)
      ⟨s.store, s.invocations ++ [⟨r, key, (Reconciler.resume .start cancelled).stage?⟩], s.log⟩
  | idle (id : Nat) (c : Chance)
    (h : ∀ inv, s.invocations[id]? = some inv → inv.stage = none) : Effect s (.advance id c) s
  | fetched (id : Nat) (c : Chance) (inv : Invocation) (p : Progress)
    (answer : Attempt (Option Snapshot)) (hi : s.invocations[id]? = some inv)
    (hs : inv.stage = some (.fetch p)) (ha : c.read s.store inv.key = answer) :
    Effect s (.advance id c)
      ⟨s.store, s.invocations.set id (inv.moved (inv.reconciler.fetched p c.cancelled answer).2),
        s.log ++ [(id, .fetch inv.key answer)]⟩
  | delivered (id : Nat) (c : Chance) (inv : Invocation) (p : Progress) (snapshot : Snapshot)
    (rs : List RunResult) (payload : Payload) (hi : s.invocations[id]? = some inv)
    (hs : inv.stage = some (.deliver p snapshot rs)) (hp : Payload.new inv.key rs c.now = payload) :
    Effect s (.advance id c)
      ⟨s.store,
        s.invocations.set id
          (inv.moved (inv.reconciler.delivered p snapshot payload c.delivery).2),
        s.log ++ [(id, .deliver payload c.delivery)]⟩
  | applied (id : Nat) (c : Chance) (inv : Invocation) (p : Progress) (snapshot : Snapshot)
    (w : Write) (change : Patch) (r : Record) (hi : s.invocations[id]? = some inv)
    (hs : inv.stage = some (.write p snapshot w)) (hc : w.patch inv.reconciler.markers = change)
    (hp : s.store.poisoned = false) (hr : s.store.records.get? inv.key = some r)
    (hv : versionText r.version = snapshot.version) :
    Effect s (.advance id c)
      ⟨s.store.writeBack inv.key (change.apply r.run),
        s.invocations.set id { inv with stage := none },
        s.log ++ [(id, .patch inv.key snapshot.version change
          (.done (.applied (versionText (s.store.lastVersion + 1)))))]⟩
  | unapplied (id : Nat) (c : Chance) (inv : Invocation) (p : Progress) (snapshot : Snapshot)
    (w : Write) (change : Patch) (answer : Attempt PatchResult)
    (hi : s.invocations[id]? = some inv) (hs : inv.stage = some (.write p snapshot w))
    (hc : w.patch inv.reconciler.markers = change)
    (ha : ∀ version, answer ≠ .done (.applied version)) :
    Effect s (.advance id c)
      ⟨s.store,
        s.invocations.set id
          (inv.moved (inv.reconciler.written p c.cancelled snapshot w answer).2),
        s.log ++ [(id, .patch inv.key snapshot.version change answer)]⟩
  | crashed (id : Nat) (inv : Invocation) (hi : s.invocations[id]? = some inv) :
    Effect s (.crash id)
      ⟨s.store, s.invocations.set id { inv with stage := none }, s.log⟩
  | uncrashed (id : Nat) (hi : s.invocations[id]? = none) : Effect s (.crash id) s
  | outside (op : Store.Operation) :
    Effect s (.outside op) ⟨(s.store.perform op).2, s.invocations, s.log⟩

/-- What a step of an invocation does to a system. -/
theorem proceed_effect {s : System} {id : Nat} {inv : Invocation} {stage : Stage} (c : Chance)
    (hi : s.invocations[id]? = some inv) (hs : inv.stage = some stage) :
    Effect s (.advance id c) (s.proceed id inv stage c) := by
  cases stage with
  | fetch p =>
    rw [proceed_fetch]
    exact .fetched id c inv p _ hi hs rfl
  | deliver p snapshot rs =>
    rw [proceed_deliver]
    exact .delivered id c inv p snapshot rs _ hi hs rfl
  | write p snapshot w =>
    rw [proceed_write]
    rcases c.write_cases s.store inv.key snapshot.version (w.patch inv.reconciler.markers) with
      ⟨r, hp, hr, hv, heq⟩ | ⟨ha, hstore⟩
    · simp only [heq]
      exact .applied id c inv p snapshot w _ r hi hs rfl hp hr hv
    · simp only [hstore]
      exact .unapplied id c inv p snapshot w _ _ hi hs rfl ha

/-- An act goes in one of the ways of `Effect`. -/
theorem step_effect (s : System) (act : Act) : Effect s act (s.step act) := by
  cases act with
  | start r key cancelled => exact .started r key cancelled
  | advance id c =>
    cases hi : s.invocations[id]? with
    | none =>
      simp only [step, hi]
      exact .idle id c (by simp [hi])
    | some inv =>
      cases hs : inv.stage with
      | none =>
        simp only [step, hi, hs]
        exact .idle id c (by simp [hi, hs])
      | some stage =>
        simp only [step, hi, hs]
        exact proceed_effect c hi hs
  | crash id =>
    cases hi : s.invocations[id]? with
    | none =>
      simp only [step, hi]
      exact .uncrashed id hi
    | some inv =>
      simp only [step, hi]
      exact .crashed id inv hi
  | outside op => exact .outside op

/-- An act changes the store as a call of it does, if at all. -/
theorem Effect.change {s s' : System} {act : Act} (h : Effect s act s') :
    Store.Change s.store s'.store := by
  cases h with
  | applied id c inv p snapshot w change r => exact Store.change_writeBack _ _ _
  | outside op => exact Store.perform_change _ op
  | _ => exact .none

/-- An act only adds to the log. -/
theorem Effect.log_grows {s s' : System} {act : Act} (h : Effect s act s') : s.log <+: s'.log := by
  cases h with
  | fetched => exact List.prefix_append _ _
  | delivered => exact List.prefix_append _ _
  | applied => exact List.prefix_append _ _
  | unapplied => exact List.prefix_append _ _
  | _ => exact List.prefix_rfl

/-- An element after a replacement is the new one or one from before. -/
theorem getElem?_set_cases {α : Type} {l : List α} {i j : Nat} {a b : α}
    (h : (l.set i a)[j]? = some b) : j = i ∧ b = a ∨ l[j]? = some b := by
  rw [List.getElem?_set] at h
  split at h
  · rename_i hij
    split at h
    · exact Or.inl ⟨hij.symm, (Option.some.inj h).symm⟩
    · simp at h
  · exact Or.inr h

/-- An invocation is started with its reconciler and its key, and keeps them. -/
theorem Effect.origin {s s' : System} {act : Act} (he : Effect s act s') {id : Nat}
    {inv : Invocation} (hi : s'.invocations[id]? = some inv) :
    (∃ cancelled, act = .start inv.reconciler inv.key cancelled) ∨
      ∃ old, s.invocations[id]? = some old ∧ old.reconciler = inv.reconciler ∧
        old.key = inv.key := by
  have hset : ∀ {id' : Nat} {old new : Invocation},
      (s.invocations.set id' new)[id]? = some inv → s.invocations[id']? = some old →
      old.reconciler = new.reconciler → old.key = new.key →
      ∃ old, s.invocations[id]? = some old ∧ old.reconciler = inv.reconciler ∧
        old.key = inv.key := by
    intro id' old new hi hold hr hkey
    rcases getElem?_set_cases hi with ⟨rfl, rfl⟩ | hi
    · exact ⟨old, hold, hr, hkey⟩
    · exact ⟨inv, hi, rfl, rfl⟩
  cases he with
  | started r key cancelled =>
    rw [List.getElem?_append] at hi
    split at hi
    · exact Or.inr ⟨inv, hi, rfl, rfl⟩
    · rw [List.getElem?_singleton] at hi
      split at hi
      · obtain rfl := Option.some.inj hi
        exact Or.inl ⟨cancelled, rfl⟩
      · simp at hi
  | fetched id' c inv' p answer hi' => exact Or.inr (hset hi hi' rfl rfl)
  | delivered id' c inv' p snapshot rs payload hi' => exact Or.inr (hset hi hi' rfl rfl)
  | applied id' c inv' p snapshot w change r hi' => exact Or.inr (hset hi hi' rfl rfl)
  | unapplied id' c inv' p snapshot w change answer hi' => exact Or.inr (hset hi hi' rfl rfl)
  | crashed id' inv' hi' => exact Or.inr (hset hi hi' rfl rfl)
  | _ => exact Or.inr ⟨inv, hi, rfl, rfl⟩

/-! ## Invocations that are not disturbed -/

/-- An invocation that goes on alone comes to the end to which `Reconciler.drive` brings it. -/
theorem exists_run_of_drive {s : System} {id : Nat} {inv : Invocation} {stage : Stage} (c : Chance)
    (hi : s.invocations[id]? = some inv) (hs : inv.stage = some stage) :
    ∃ n, let s' := s.run (List.replicate n (.advance id c))
      (s'.store, s'.log) =
          (inv.reconciler.drive (c.environment id) inv.key (.wait stage) (s.store, s.log)).2 ∧
        s'.invocations[id]? = some { inv with stage := none } := by
  -- each step brings the invocation nearer to its end
  generalize hlimit : stage.measure inv.reconciler.maxConflictRetries.toNat = limit
  induction limit using Nat.strong_induction_on generalizing s inv stage with
  | h limit ih =>
    have hget : ∀ inv', (s.invocations.set id inv')[id]? = some inv' := by
      intro inv'
      obtain ⟨hlt, -⟩ := List.getElem?_eq_some_iff.1 hi
      simp [hlt]
    rcases hadvance : inv.reconciler.advance (c.environment id) inv.key stage (s.store, s.log) with
      ⟨move, store, log⟩
    have hstep : s.step (.advance id c) = ⟨store, s.invocations.set id (inv.moved move), log⟩ := by
      simp only [step, hi, hs, proceed, hadvance]
    rw [Reconciler.drive_wait, hadvance]
    cases move with
    | finish ending =>
      refine ⟨1, ?_⟩
      rw [List.replicate_one, run_cons, run_nil, hstep, Reconciler.drive_finish]
      exact ⟨rfl, hget _⟩
    | wait next =>
      have hmeasure : next.measure inv.reconciler.maxConflictRetries.toNat < limit := by
        rw [← hlimit]
        exact Reconciler.measure_advance (congrArg Prod.fst hadvance)
      obtain ⟨n, hn⟩ := @ih _ hmeasure
        ⟨store, s.invocations.set id (inv.moved (.wait next)), log⟩ (inv.moved (.wait next)) next
        (hget _) rfl rfl
      refine ⟨n + 1, ?_⟩
      rw [List.replicate_succ, run_cons, hstep]
      exact hn

/-- An invocation that starts and goes on alone does what `Reconciler.reconcile` does. -/
theorem exists_run_of_reconcile (s : System) (r : Reconciler) (key : RunKey) (c : Chance) :
    ∃ n, let id := s.invocations.length
      let s' := s.run (.start r key c.cancelled :: List.replicate n (.advance id c))
      (s'.store, s'.log) = (r.reconcile (c.environment id) key (s.store, s.log)).2 ∧
        s'.invocations[id]? = some ⟨r, key, none⟩ := by
  have hreconcile : ∀ id, r.reconcile (c.environment id) key (s.store, s.log) =
      r.drive (c.environment id) key (Reconciler.resume .start c.cancelled) (s.store, s.log) := by
    intro id
    simp only [Reconciler.reconcile, Chance.emitAll_environment]
    rfl
  simp only [hreconcile]
  cases hmove : Reconciler.resume .start c.cancelled with
  | finish ending =>
    refine ⟨0, ?_⟩
    simp [step, hmove, Move.stage?]
  | wait stage =>
    have hi : (s.step (.start r key c.cancelled)).invocations[s.invocations.length]?
        = some ⟨r, key, some stage⟩ := by
      simp [step, hmove, Move.stage?]
    obtain ⟨n, hn⟩ := exists_run_of_drive c hi rfl
    exact ⟨n, hn⟩

end System

end RunHerald
