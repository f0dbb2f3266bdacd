import RunHerald.Proofs.Store.VersionIdentity

/-!
# A rework is seen whole or not at all

A rework that aborts leaves its record half changed, with the version that it had. Nobody sees that
record: the store is unusable from then on, and every call of it, of any kind and for any key, is
refused.

`performWhole` is a store that takes an aborted rework back. `history_eq_wholeHistory` says that the
answers are those of such a store, whatever is called. It follows from a relation that every call
keeps: the two stores are equal, or both are unusable.
-/

set_option autoImplicit false

namespace RunHerald

/-- Edits that complete are followed by the edits after them. -/
theorem Edit.applyAll_append {run : Run} {edits : List Edit}
    (h : (Edit.applyAll run edits).2 = none) (more : List Edit) :
    Edit.applyAll run (edits ++ more) = Edit.applyAll (Edit.applyAll run edits).1 more := by
  induction edits generalizing run with
  | nil => rfl
  | cons e edits ih =>
    cases he : e.apply run with
    | error message => simp [Edit.applyAll, he] at h
    | ok next =>
      simp only [Edit.applyAll, he, List.cons_append] at h ⊢
      exact ih h

/-- Edits that complete stay done when the next one aborts, and those after it are not made. -/
theorem Edit.applyAll_abort {run : Run} {edits : List Edit}
    (h : (Edit.applyAll run edits).2 = none) (message : String) (more : List Edit) :
    Edit.applyAll run (edits ++ .abort message :: more) =
      ((Edit.applyAll run edits).1, some message) := by
  rw [Edit.applyAll_append h]
  rfl

namespace Store

/-- A rework by a list of edits. -/
def Operation.update (key : RunKey) (edits : List Edit) : Operation :=
  .rework key fun run => Edit.applyAll run edits

/-- A rework that aborts leaves a store unusable. -/
@[simp] theorem poisoned_spoil (s : Store) (key : RunKey) (r : Record) (run : Run) :
    (s.spoil key r run).poisoned = true := rfl

/-! ## Aborts -/

/-- A rework of an absent record is not even tried. -/
theorem perform_rework_absent {s : Store} (hp : s.poisoned = false) {key : RunKey}
    (hr : s.records.get? key = none) (f : Run → Run × Option String) :
    s.perform (.rework key f) = (.reworked (.done none), s) := by
  simp [perform, rework, hp, hr]

/-- A rework that aborts leaves its record as far as it got, with the version that it had. -/
theorem perform_rework_aborted {s : Store} (hp : s.poisoned = false) {key : RunKey} {r : Record}
    (hr : s.records.get? key = some r) {f : Run → Run × Option String} {run : Run} {message : String}
    (hf : f r.run = (run, some message)) :
    s.perform (.rework key f) = (.reworked (.aborted message), s.spoil key r run) := by
  simp [perform, rework, hp, hr, hf, spoil]

/-- A list of edits that aborts after some of them leaves its record with just these made. -/
theorem perform_update_aborted {s : Store} (hp : s.poisoned = false) {key : RunKey} {r : Record}
    (hr : s.records.get? key = some r) {edits : List Edit}
    (hdone : (Edit.applyAll r.run edits).2 = none) (message : String) (more : List Edit) :
    s.perform (.update key (edits ++ .abort message :: more)) =
      (.reworked (.aborted message), s.spoil key r (Edit.applyAll r.run edits).1) :=
  perform_rework_aborted hp hr (Edit.applyAll_abort hdone message more)

/-- Only the rework of a record that is there can abort, and it leaves the store unusable. -/
theorem spoiled_of_aborted {s : Store} {op : Operation} {message : String}
    (h : (s.perform op).1 = .reworked (.aborted message)) :
    ∃ key f r run, op = .rework key f ∧ s.records.get? key = some r ∧
      f r.run = (run, some message) ∧ (s.perform op).2 = s.spoil key r run := by
  have he := perform_effect s op
  rw [h] at he
  generalize (s.perform op).2 = s' at he ⊢
  cases he with
  | refused _ _ _ ha => cases op <;> simp [Operation.refusal] at ha
  | reworkAborted key f r run _ _ hr hf => exact ⟨key, f, r, run, rfl, hr, hf, rfl⟩

/-- An operation that aborts leaves a store unusable. -/
theorem poisoned_of_aborted {s : Store} {op : Operation} {message : String}
    (h : (s.perform op).1 = .reworked (.aborted message)) : (s.perform op).2.poisoned = true := by
  obtain ⟨key, f, r, run, -, -, -, hspoil⟩ := spoiled_of_aborted h
  rw [hspoil, poisoned_spoil]

/-- The answers of an unusable store. -/
theorem history_of_poisoned {s : Store} (hp : s.poisoned = true) (ops : List Operation) :
    s.history ops = ops.map fun op => (op, op.refusal) := by
  induction ops with
  | nil => rfl
  | cons op ops ih => rw [history, perform_of_poisoned hp, ih, List.map_cons]

/-- A refusal shows no version. -/
@[simp] theorem Operation.shown_refusal (op : Operation) : op.refusal.shown = [] := by
  cases op <;> rfl

/-- The answers to calls and to later calls. -/
theorem history_append (s : Store) (ops ops' : List Operation) :
    s.history (ops ++ ops') = s.history ops ++ (s.after ops).history ops' := by
  induction ops generalizing s with
  | nil => rfl
  | cons op ops ih => rw [List.cons_append, history, history, ih, after_cons, List.cons_append]

/-! ## Taking an aborted rework back -/

/-- Makes a call, but takes a rework back if it aborts: the records stay as they were. -/
def performWhole (s : Store) (op : Operation) : Answer × Store :=
  match s.perform op with
  | (.reworked (.aborted message), _) => (.reworked (.aborted message), { s with poisoned := true })
  | result => result

/-- The calls with their answers when aborted reworks are taken back. -/
def wholeHistory (s : Store) : List Operation → List (Operation × Answer)
  | [] => []
  | op :: ops => (op, (s.performWhole op).1) :: wholeHistory (s.performWhole op).2 ops

/-- Two stores that nobody can tell apart: they are equal, or both are unusable. -/
def Alike (s t : Store) : Prop := s = t ∨ (s.poisoned = true ∧ t.poisoned = true)

/-- Taking back changes no answer. -/
theorem performWhole_fst (s : Store) (op : Operation) : (s.performWhole op).1 = (s.perform op).1 := by
  unfold performWhole
  split
  · rename_i message next h
    rw [h]
  · rfl

/-- Taking back changes only a store that is unusable anyhow. -/
theorem alike_performWhole (s : Store) (op : Operation) :
    Alike (s.perform op).2 (s.performWhole op).2 := by
  unfold performWhole
  split
  · rename_i message next h
    exact Or.inr ⟨poisoned_of_aborted (congrArg Prod.fst h), rfl⟩
  · exact Or.inl rfl

/-- A call of stores that are alike gets one answer and leaves them alike. -/
theorem Alike.perform {s t : Store} (h : Alike s t) (op : Operation) :
    (s.perform op).1 = (t.performWhole op).1 ∧ Alike (s.perform op).2 (t.performWhole op).2 := by
  rcases h with rfl | ⟨hs, ht⟩
  · exact ⟨(performWhole_fst s op).symm, alike_performWhole s op⟩
  · rw [performWhole_fst, perform_of_poisoned hs, perform_of_poisoned ht]
    have hkept := alike_performWhole t op
    rw [perform_of_poisoned ht] at hkept
    rcases hkept with hkept | ⟨-, hkept⟩
    · exact ⟨rfl, Or.inr ⟨hs, hkept ▸ ht⟩⟩
    · exact ⟨rfl, Or.inr ⟨hs, hkept⟩⟩

/-- Stores that are alike have the same history. -/
theorem Alike.history {s t : Store} (h : Alike s t) (ops : List Operation) :
    s.history ops = t.wholeHistory ops := by
  induction ops generalizing s t with
  | nil => rfl
  | cons op ops ih =>
    obtain ⟨hanswer, hnext⟩ := h.perform op
    rw [Store.history, wholeHistory, hanswer, ih hnext]

/-- Every answer is that of a store that takes aborted reworks back. -/
theorem history_eq_wholeHistory (s : Store) (ops : List Operation) :
    s.history ops = s.wholeHistory ops :=
  Alike.history (Or.inl rfl) ops

end Store

end RunHerald
