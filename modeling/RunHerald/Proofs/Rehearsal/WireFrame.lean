import RunHerald.Rehearsal.World

/-!
# What has nothing to do with the wire

Reading a record and changing it neither reads nor changes the webhook of a world, whatever hooks
and faults are queued: `ignoresWire_fetch` and `ignoresWire_patch`. So with another webhook they do
the same and leave the same behind.
-/

set_option autoImplicit false

namespace RunHerald.World

variable {ι : Type}

/-- The world with another webhook. -/
def withWire (w : World ι) (wire : Option Wire) : World ι := { w with wire }

/-- Another webhook leaves the store alone. -/
@[simp] theorem withWire_store (w : World ι) (wire : Option Wire) :
    (w.withWire wire).store = w.store := rfl

/-- Another webhook leaves the hooks alone. -/
@[simp] theorem withWire_hooks (w : World ι) (wire : Option Wire) :
    (w.withWire wire).hooks = w.hooks := rfl

/-- Another webhook leaves the clock alone. -/
@[simp] theorem withWire_clock (w : World ι) (wire : Option Wire) :
    (w.withWire wire).clock = w.clock := rfl

/-- Another webhook leaves the edits that clear a record alone. -/
@[simp] theorem withWire_clearing (w : World ι) (wire : Option Wire) (key : RunKey) :
    (w.withWire wire).clearing key = w.clearing key := rfl

/-- Something done in a world neither reads nor changes its webhook. -/
def IgnoresWire {α : Type} (f : World ι → α × World ι) : Prop :=
  ∀ w wire, f (w.withWire wire) = ((f w).1, (f w).2.withWire wire)

/-- Taking a hook ignores the wire. -/
theorem takeHook_withWire (w : World ι) (point : HookPoint) (wire : Option Wire) :
    (w.withWire wire).takeHook point =
      ((w.takeHook point).1, (w.takeHook point).2.withWire wire) := by
  simp only [takeHook, withWire_hooks]
  cases w.hooks point <;> rfl

/-- The edits of a hook ignore the wire. -/
theorem hookEdits_withWire (w : World ι) (key : RunKey) (edits : List Edit) (wire : Option Wire) :
    (w.withWire wire).hookEdits key edits =
      ((w.hookEdits key edits).1, (w.hookEdits key edits).2.withWire wire) := by
  simp only [hookEdits, withWire_store]
  split
  · rfl
  · rcases w.store.inner.update key edits with ⟨answer, s⟩
    cases answer <;> rfl

/-- The deletion of a hook ignores the wire. -/
theorem hookDelete_withWire (w : World ι) (key : RunKey) (delete : Bool) (wire : Option Wire) :
    (w.withWire wire).hookDelete key delete =
      ((w.hookDelete key delete).1, (w.hookDelete key delete).2.withWire wire) := by
  simp only [hookDelete, withWire_store, withWire_clearing, withWire_clock]
  split
  · rcases w.store.inner.update key (w.clearing key) with ⟨answer, s⟩
    cases answer with
    | failed e => rfl
    | aborted m => rfl
    | done a =>
      simp only
      rcases s.requestDelete w.clock key with ⟨result, s'⟩
      cases result <;> rfl
  · rfl

/-- What a hook does before a call ignores the wire. -/
theorem before_withWire (w : World ι) (key : RunKey) (hook : Hook) (wire : Option Wire) :
    (w.withWire wire).before key hook =
      ((w.before key hook).1, (w.before key hook).2.withWire wire) := by
  simp only [before, hookEdits_withWire]
  rcases w.hookEdits key hook.edits with ⟨answer, w⟩
  cases answer with
  | failed e => rfl
  | aborted m => rfl
  | done a =>
    simp only [hookDelete_withWire]
    rcases w.hookDelete key hook.delete with ⟨answer, w⟩
    cases answer with
    | failed e => rfl
    | aborted m => rfl
    | done a =>
      simp only
      split <;> rfl

/-- What a hook does after a call ignores the wire. -/
theorem after_withWire (w : World ι) (hook : Hook) (wire : Option Wire) :
    (w.withWire wire).after hook = (w.after hook).withWire wire := by
  unfold after
  split <;> rfl

/-- With a hook around it, a call that ignores the wire still does. -/
theorem ignoresWire_hooked {α : Type} (point : HookPoint) (key : RunKey)
    {call : World ι → Attempt α × World ι} (h : IgnoresWire call) :
    IgnoresWire (hooked point key call) := by
  intro w wire
  simp only [hooked, takeHook_withWire]
  rcases w.takeHook point with ⟨hook, w⟩
  cases hook with
  | none => exact h w wire
  | some hook =>
    simp only [before_withWire]
    rcases w.before key hook with ⟨answer, w⟩
    cases answer with
    | failed e => rfl
    | aborted m => rfl
    | done a => simp only [h w wire, after_withWire]

/-- Reading a record ignores the wire. -/
theorem ignoresWire_fetch (key : RunKey) : IgnoresWire (fetch (ι := ι) key) :=
  ignoresWire_hooked .fetch key fun _ _ => rfl

/-- Changing a record ignores the wire. -/
theorem ignoresWire_patch [Interference ι] (key : RunKey) (expected : String) (p : Patch) :
    IgnoresWire (patch (ι := ι) key expected p) :=
  ignoresWire_hooked .patch key fun _ _ => rfl

end RunHerald.World
