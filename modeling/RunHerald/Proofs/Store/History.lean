import Mathlib
import RunHerald.Store

/-!
# Histories of a store

An `Operation` is one call of a store by anybody, and `perform` makes it. `after` is the store that
a list of operations leaves, and `history` pairs each operation with its answer.

Two facts about versions hold at every moment of every history.

* `Versioned`: no record has a version beyond the counter, and no two keys share a version.
* `Assigned`: once a version has been read off a record, it stays with that key and that content for
  good. A later write takes a version beyond the counter, so it cannot take this one.

Each is kept by one operation (`versioned_perform`, `assigned_perform`) and hence by any number of
them (`versioned_after`, `assigned_after`). What one operation can do is said once: `Effect` lists
every way in which a call can go, with its answer, and `perform_effect` says that there are no
others.
-/

set_option autoImplicit false

namespace RunHerald

/-- The text of a version is read back as its number. -/
theorem toNat?_versionText (n : Nat) : (versionText n).toNat? = some n :=
  Nat.toNat?_repr n

/-- Different versions have different texts. -/
theorem versionText_injective : Function.Injective versionText := by
  intro m n h
  exact Nat.repr_injective h

namespace Store

/-- A call of a store. The function of a rework may do anything to the record, and may abort. -/
inductive Operation where
  | insert (run : Run)
  | rework (key : RunKey) (f : Run → Run × Option String)
  | patch (key : RunKey) (expected : String) (p : Patch)
  | requestDelete (now : Timestamp) (key : RunKey)
  | read (key : RunKey)
  | count

/-- The answer to a call of a store. -/
inductive Answer where
  | inserted (result : Except ServiceError String)
  | reworked (result : Attempt (Option String))
  | patched (result : Except ServiceError PatchResult)
  | deleted (result : Except ServiceError DeleteResult)
  | read (result : Except ServiceError (Option Snapshot))
  | counted (result : Except ServiceError Nat)

/-- Makes a call: its answer and the store afterwards. -/
def perform (s : Store) : Operation → Answer × Store
  | .insert run => (.inserted (s.insert run).1, (s.insert run).2)
  | .rework key f => (.reworked (s.rework key f).1, (s.rework key f).2)
  | .patch key expected p => (.patched (s.patch key expected p).1, (s.patch key expected p).2)
  | .requestDelete now key =>
    (.deleted (s.requestDelete now key).1, (s.requestDelete now key).2)
  | .read key => (.read (s.fetch key), s)
  | .count => (.counted s.runCount, s)

/-- The store after some calls. -/
def after (s : Store) (ops : List Operation) : Store := ops.foldl (fun s op => (s.perform op).2) s

/-- The calls with their answers, in their order. -/
def history (s : Store) : List Operation → List (Operation × Answer)
  | [] => []
  | op :: ops => (op, (s.perform op).1) :: history (s.perform op).2 ops

/-- Without operations a store is as it was. -/
@[simp] theorem after_nil (s : Store) : s.after [] = s := rfl

/-- Operations are performed one after another. -/
@[simp] theorem after_cons (s : Store) (op : Operation) (ops : List Operation) :
    s.after (op :: ops) = (s.perform op).2.after ops := rfl

/-- The calls of a longer history start where those of the shorter one ended. -/
theorem after_append (s : Store) (ops ops' : List Operation) :
    s.after (ops ++ ops') = (s.after ops).after ops' :=
  List.foldl_append

/-- Reading changes nothing. -/
@[simp] theorem perform_read (s : Store) (key : RunKey) : (s.perform (.read key)).2 = s := rfl

/-! ## What one call can do -/

/-- The answer to a call of a store that an abort has left unusable. -/
def Operation.refusal : Operation → Answer
  | .insert _ => .inserted (.error poisonError)
  | .rework .. => .reworked (.failed poisonError)
  | .patch .. => .patched (.error poisonError)
  | .requestDelete .. => .deleted (.error poisonError)
  | .read _ => .read (.error poisonError)
  | .count => .counted (.error poisonError)

/-- Every call of an unusable store is refused and changes nothing. -/
theorem perform_of_poisoned {s : Store} (hp : s.poisoned = true) (op : Operation) :
    s.perform op = (op.refusal, s) := by
  cases op <;>
    simp [perform, Store.insert, rework, Store.patch, requestDelete, fetch, runCount, hp,
      Operation.refusal]

/-- The store that an aborted rework leaves: the record is half changed, with the version that it
had. -/
def spoil (s : Store) (key : RunKey) (r : Record) (run : Run) : Store :=
  { s with records := s.records.put key ⟨run, r.version⟩, poisoned := true }

/-- A write takes the next version. -/
@[simp] theorem lastVersion_save (s : Store) (key : RunKey) (run : Run) :
    (s.save key run).lastVersion = s.lastVersion + 1 := rfl

/-- A removal takes no version. -/
@[simp] theorem lastVersion_remove (s : Store) (key : RunKey) :
    (s.remove key).lastVersion = s.lastVersion := rfl

/-- A rework that aborts takes no version. -/
@[simp] theorem lastVersion_spoil (s : Store) (key : RunKey) (r : Record) (run : Run) :
    (s.spoil key r run).lastVersion = s.lastVersion := rfl

/-- Whether a record goes once it is written: its deletion is pending and no finalizer is left. -/
def isSpent (run : Run) : Bool := run.isDeletionRequested && run.finalizers.isEmpty

/-- The store after a patch was applied: the record is written, and goes if it is spent. -/
def writeBack (s : Store) (key : RunKey) (run : Run) : Store :=
  if isSpent run then (s.save key run).remove key else s.save key run

/-- A record that is written back takes the next version, also if it goes. -/
@[simp] theorem lastVersion_writeBack (s : Store) (key : RunKey) (run : Run) :
    (s.writeBack key run).lastVersion = s.lastVersion + 1 := by
  unfold writeBack
  split <;> rfl

/-- A patch on condition of the record's own version is applied. -/
theorem patch_of_get? {s : Store} (hp : s.poisoned = false) {key : RunKey} {r : Record}
    (hr : s.records.get? key = some r) (p : Patch) :
    s.patch key r.snapshot.version p =
      (.ok (.applied (versionText (s.lastVersion + 1))), s.writeBack key (p.apply r.run)) := by
  simp [Store.patch, hp, hr, Record.snapshot, writeBack, isSpent]

/-- Every way in which a call can go: its answer and the store afterwards. -/
inductive Effect (s : Store) : Operation → Answer → Store → Prop
  | refused (op : Operation) (answer : Answer) (hp : s.poisoned = true)
    (ha : op.refusal = answer) : Effect s op answer s
  | inserted (run : Run) (hp : s.poisoned = false) :
    Effect s (.insert run) (.inserted (.ok (versionText (s.lastVersion + 1)))) (s.save run.key run)
  | reworkAbsent (key : RunKey) (f : Run → Run × Option String) (hp : s.poisoned = false)
    (hr : s.records.get? key = none) : Effect s (.rework key f) (.reworked (.done none)) s
  | reworked (key : RunKey) (f : Run → Run × Option String) (r : Record) (run : Run)
    (hp : s.poisoned = false) (hr : s.records.get? key = some r) (hf : f r.run = (run, none)) :
    Effect s (.rework key f) (.reworked (.done (some (versionText (s.lastVersion + 1)))))
      (s.save key run)
  | reworkAborted (key : RunKey) (f : Run → Run × Option String) (r : Record) (run : Run)
    (message : String) (hp : s.poisoned = false) (hr : s.records.get? key = some r)
    (hf : f r.run = (run, some message)) :
    Effect s (.rework key f) (.reworked (.aborted message)) (s.spoil key r run)
  | patchAbsent (key : RunKey) (expected : String) (p : Patch) (hp : s.poisoned = false)
    (hr : s.records.get? key = none) :
    Effect s (.patch key expected p) (.patched (.ok .notFound)) s
  | patchConflict (key : RunKey) (expected : String) (p : Patch) (r : Record)
    (hp : s.poisoned = false) (hr : s.records.get? key = some r)
    (hv : versionText r.version ≠ expected) :
    Effect s (.patch key expected p) (.patched (.ok (.conflict (versionText r.version)))) s
  | patched (key : RunKey) (expected : String) (p : Patch) (r : Record) (hp : s.poisoned = false)
    (hr : s.records.get? key = some r) (hv : versionText r.version = expected) :
    Effect s (.patch key expected p)
      (.patched (.ok (.applied (versionText (s.lastVersion + 1)))))
      (s.writeBack key (p.apply r.run))
  | deleteAbsent (now : Timestamp) (key : RunKey) (hp : s.poisoned = false)
    (hr : s.records.get? key = none) :
    Effect s (.requestDelete now key) (.deleted (.ok .notFound)) s
  | deleted (now : Timestamp) (key : RunKey) (r : Record) (hp : s.poisoned = false)
    (hr : s.records.get? key = some r) (hf : r.run.finalizers.isEmpty = true) :
    Effect s (.requestDelete now key) (.deleted (.ok .deleted)) (s.remove key)
  | deletePending (now : Timestamp) (key : RunKey) (r : Record) (hp : s.poisoned = false)
    (hr : s.records.get? key = some r) (hf : r.run.finalizers.isEmpty = false)
    (hd : r.run.isDeletionRequested = true) :
    Effect s (.requestDelete now key) (.deleted (.ok .pending)) s
  | deleteRequested (now : Timestamp) (key : RunKey) (r : Record) (hp : s.poisoned = false)
    (hr : s.records.get? key = some r) (hf : r.run.finalizers.isEmpty = false)
    (hd : r.run.isDeletionRequested = false) :
    Effect s (.requestDelete now key) (.deleted (.ok .pending))
      (s.save key { r.run with deletionRequestedAt := some now })
  | read (key : RunKey) (found : Option Snapshot) (hp : s.poisoned = false)
    (hf : (s.records.get? key).map Record.snapshot = found) :
    Effect s (.read key) (.read (.ok found)) s
  | counted (hp : s.poisoned = false) : Effect s .count (.counted (.ok s.records.size)) s

/-- What a patch does to a usable store. -/
theorem patch_effect {s : Store} (key : RunKey) (expected : String) (p : Patch)
    (hp : s.poisoned = false) :
    Effect s (.patch key expected p) (.patched (s.patch key expected p).1)
      (s.patch key expected p).2 := by
  unfold Store.patch
  rw [if_neg (by simp [hp])]
  cases hr : s.records.get? key with
  | none => exact .patchAbsent key expected p hp hr
  | some r =>
    by_cases hv : versionText r.version = expected
    · simp only [hv, ne_eq, not_true_eq_false, if_false]
      exact .patched key expected p r hp hr hv
    · simpa [hv] using Effect.patchConflict key expected p r hp hr hv

/-- What a request for deletion does to a usable store. -/
theorem requestDelete_effect {s : Store} (now : Timestamp) (key : RunKey)
    (hp : s.poisoned = false) :
    Effect s (.requestDelete now key) (.deleted (s.requestDelete now key).1)
      (s.requestDelete now key).2 := by
  unfold Store.requestDelete
  rw [if_neg (by simp [hp])]
  cases hr : s.records.get? key with
  | none => exact .deleteAbsent now key hp hr
  | some r =>
    cases hf : r.run.finalizers.isEmpty with
    | true => simpa [hf] using Effect.deleted now key r hp hr hf
    | false =>
      cases hd : r.run.isDeletionRequested with
      | true => simpa [hf, hd] using Effect.deletePending now key r hp hr hf hd
      | false => simpa [hf, hd] using Effect.deleteRequested now key r hp hr hf hd

/-- What a rework does to a usable store. -/
theorem rework_effect {s : Store} (key : RunKey) (f : Run → Run × Option String)
    (hp : s.poisoned = false) :
    Effect s (.rework key f) (.reworked (s.rework key f).1) (s.rework key f).2 := by
  unfold Store.rework
  rw [if_neg (by simp [hp])]
  cases hr : s.records.get? key with
  | none => exact .reworkAbsent key f hp hr
  | some r =>
    rcases hf : f r.run with ⟨run, stop⟩
    cases stop with
    | none => simpa [hf] using Effect.reworked key f r run hp hr hf
    | some message => simpa [hf, spoil] using Effect.reworkAborted key f r run message hp hr hf

/-- A call goes in one of the ways of `Effect`. -/
theorem perform_effect (s : Store) (op : Operation) :
    Effect s op (s.perform op).1 (s.perform op).2 := by
  cases hp : s.poisoned with
  | true =>
    rw [perform_of_poisoned hp]
    exact .refused op _ hp rfl
  | false =>
    cases op with
    | insert run => simpa [perform, Store.insert, hp] using Effect.inserted run hp
    | rework key f => exact rework_effect key f hp
    | patch key expected p => exact patch_effect key expected p hp
    | requestDelete now key => exact requestDelete_effect now key hp
    | read key => simpa [perform, fetch, hp] using Effect.read key _ hp rfl
    | count => simpa [perform, runCount, hp] using Effect.counted hp

/-- What a call can make of a store, whatever it answers. -/
inductive Change (s : Store) : Store → Prop
  | none : Change s s
  | save (key : RunKey) (run : Run) : Change s (s.save key run)
  | remove (key : RunKey) : Change s (s.remove key)
  | saveRemove (key : RunKey) (run : Run) : Change s ((s.save key run).remove key)
  | spoil (key : RunKey) (r : Record) (run : Run) (h : s.records.get? key = some r) :
    Change s (s.spoil key r run)

/-- Writing a record back is one of the changes of a store. -/
theorem change_writeBack (s : Store) (key : RunKey) (run : Run) :
    Change s (s.writeBack key run) := by
  unfold writeBack
  split
  · exact .saveRemove key run
  · exact .save key run

/-- The ways of `Effect` fall into the five kinds of `Change`. -/
theorem Effect.change {s s' : Store} {op : Operation} {answer : Answer}
    (h : Effect s op answer s') : Change s s' := by
  cases h with
  | refused => exact .none
  | inserted run => exact .save _ _
  | reworkAbsent => exact .none
  | reworked key f r run => exact .save _ _
  | reworkAborted key f r run message hp hr => exact .spoil key r run hr
  | patchAbsent => exact .none
  | patchConflict => exact .none
  | patched key expected p r => exact change_writeBack _ _ _
  | deleteAbsent => exact .none
  | deleted now key => exact .remove _
  | deletePending => exact .none
  | deleteRequested now key r => exact .save _ _
  | read => exact .none
  | counted => exact .none

/-- A call changes a store in one of the ways of `Change`. -/
theorem perform_change (s : Store) (op : Operation) : Change s (s.perform op).2 :=
  (perform_effect s op).change

/-- The counter never goes back. -/
theorem lastVersion_change {s s' : Store} (hc : Change s s') : s.lastVersion ≤ s'.lastVersion := by
  cases hc <;> simp

/-- The counter never goes back. -/
theorem lastVersion_after (s : Store) (ops : List Operation) :
    s.lastVersion ≤ (s.after ops).lastVersion := by
  induction ops generalizing s with
  | nil => exact le_rfl
  | cons op ops ih => exact (lastVersion_change (perform_change s op)).trans (ih _)

/-! ## Look-ups after a change -/

/-- A record just written is found with the next version, and no other look-up changes. -/
theorem get?_save (s : Store) (key : RunKey) (run : Run) (k : RunKey) :
    (s.save key run).records.get? k =
      if k = key then some ⟨run, s.lastVersion + 1⟩ else s.records.get? k :=
  Table.get?_put _ _ _ _

/-- A record just removed is not found, and no other look-up changes. -/
theorem get?_remove (s : Store) (key k : RunKey) :
    (s.remove key).records.get? k = if k = key then none else s.records.get? k :=
  Table.get?_drop _ _ _

/-- A record just patched is found with the next version unless it is spent, and no other look-up
changes. -/
theorem get?_writeBack (s : Store) (key : RunKey) (run : Run) (k : RunKey) :
    (s.writeBack key run).records.get? k =
      if k = key then if isSpent run then none else some ⟨run, s.lastVersion + 1⟩
      else s.records.get? k := by
  unfold writeBack
  by_cases hk : k = key <;> cases isSpent run <;> simp [get?_remove, get?_save, hk]

/-- A half changed record is found with the version that it had. -/
theorem get?_spoil (s : Store) (key : RunKey) (r : Record) (run : Run) (k : RunKey) :
    (s.spoil key r run).records.get? k =
      if k = key then some ⟨run, r.version⟩ else s.records.get? k :=
  Table.get?_put _ _ _ _

/-! ## Versions -/

/-- No record has a version beyond the counter, and no two keys share a version. -/
structure Versioned (s : Store) : Prop where
  bounded : ∀ key r, s.records.get? key = some r → r.version ≤ s.lastVersion
  distinct : ∀ key key' r r', s.records.get? key = some r → s.records.get? key' = some r' →
    r.version = r'.version → key = key'

/-- A version that has been given to a record with this content under this key, and that no other
record of a usable store can have. -/
structure Assigned (s : Store) (n : Nat) (key : RunKey) (run : Run) : Prop where
  bounded : n ≤ s.lastVersion
  only : s.poisoned = false → ∀ k r, s.records.get? k = some r → r.version = n →
    k = key ∧ r.run = run

/-- An empty store is versioned. -/
theorem versioned_empty : Versioned empty where
  bounded := by
    intro key r h
    simp [empty] at h
  distinct := by
    intro key key' r r' h
    simp [empty] at h

/-- A write keeps a store versioned. -/
theorem versioned_save {s : Store} (h : Versioned s) (key : RunKey) (run : Run) :
    Versioned (s.save key run) where
  bounded := by
    intro k r hr
    rw [get?_save] at hr
    split at hr
    · obtain rfl := Option.some.inj hr
      exact le_rfl
    · exact Nat.le_succ_of_le (h.bounded k r hr)
  distinct := by
    intro k k' r r' hr hr' hv
    rw [get?_save] at hr hr'
    split at hr <;> split at hr'
    · rename_i hk hk'
      rw [hk, hk']
    -- the version just given is beyond every version that another record has
    · obtain rfl := Option.some.inj hr
      have := h.bounded k' r' hr'
      simp only at hv
      omega
    · obtain rfl := Option.some.inj hr'
      have := h.bounded k r hr
      simp only at hv
      omega
    · exact h.distinct k k' r r' hr hr' hv

/-- A removal keeps a store versioned. -/
theorem versioned_remove {s : Store} (h : Versioned s) (key : RunKey) :
    Versioned (s.remove key) where
  bounded := by
    intro k r hr
    rw [get?_remove] at hr
    split at hr
    · simp at hr
    · exact h.bounded k r hr
  distinct := by
    intro k k' r r' hr hr' hv
    rw [get?_remove] at hr hr'
    split at hr
    · simp at hr
    · split at hr'
      · simp at hr'
      · exact h.distinct k k' r r' hr hr' hv

/-- A rework that aborts keeps a store versioned. -/
theorem versioned_spoil {s : Store} (h : Versioned s) {key : RunKey} {r : Record} (run : Run)
    (hr : s.records.get? key = some r) :
    Versioned (s.spoil key r run) where
  bounded := by
    intro k q hq
    rw [get?_spoil] at hq
    split at hq
    · obtain rfl := Option.some.inj hq
      exact h.bounded key r hr
    · exact h.bounded k q hq
  distinct := by
    intro k k' q q' hq hq' hv
    rw [get?_spoil] at hq hq'
    split at hq <;> split at hq'
    · rename_i hk hk'
      rw [hk, hk']
    -- the half changed record keeps its version, so it can be looked up before the abort instead
    · rename_i hk _
      obtain rfl := Option.some.inj hq
      rw [hk]
      exact h.distinct key k' r q' hr hq' hv
    · rename_i _ hk'
      obtain rfl := Option.some.inj hq'
      rw [hk']
      exact h.distinct k key q r hq hr hv
    · exact h.distinct k k' q q' hq hq' hv

/-- Every change keeps a store versioned. -/
theorem versioned_change {s s' : Store} (h : Versioned s) (hc : Change s s') : Versioned s' := by
  cases hc with
  | none => exact h
  | save key run => exact versioned_save h key run
  | remove key => exact versioned_remove h key
  | saveRemove key run => exact versioned_remove (versioned_save h key run) key
  | spoil key r run hr => exact versioned_spoil h run hr

/-- Every call keeps versions distinct and within the counter. -/
theorem versioned_perform {s : Store} (h : Versioned s) (op : Operation) :
    Versioned (s.perform op).2 :=
  versioned_change h (perform_change s op)

/-- Versions are distinct and within the counter after any calls. -/
theorem versioned_after {s : Store} (h : Versioned s) (ops : List Operation) :
    Versioned (s.after ops) := by
  induction ops generalizing s with
  | nil => exact h
  | cons op ops ih => exact ih (versioned_perform h op)

/-- The version of a record is assigned to it. -/
theorem assigned_of_get? {s : Store} (h : Versioned s) {key : RunKey} {r : Record}
    (hr : s.records.get? key = some r) : Assigned s r.version key r.run where
  bounded := h.bounded key r hr
  only := by
    intro _ k q hq hv
    obtain rfl := h.distinct k key q r hq hr hv
    rw [hr] at hq
    obtain rfl := Option.some.inj hq
    exact ⟨rfl, rfl⟩

/-- A snapshot that a read shows is the stored record, and its version is assigned to it. -/
theorem assigned_of_read {s : Store} (h : Versioned s) {key : RunKey} {snap : Snapshot}
    (hs : (s.perform (.read key)).1 = .read (.ok (some snap))) :
    ∃ r, s.records.get? key = some r ∧ r.snapshot = snap ∧ s.poisoned = false ∧
      Assigned s r.version key r.run := by
  have he := perform_effect s (.read key)
  rw [hs] at he
  cases he with
  | refused _ _ hp ha => simp [Operation.refusal] at ha
  | read _ _ hp hf =>
    obtain ⟨r, hr, hsnap⟩ := Option.map_eq_some_iff.1 hf
    exact ⟨r, hr, hsnap, hp, assigned_of_get? h hr⟩

/-- A later write leaves a version assigned as it was. -/
theorem assigned_save {s : Store} {n : Nat} {key : RunKey} {run : Run}
    (h : Assigned s n key run) (key' : RunKey) (run' : Run) :
    Assigned (s.save key' run') n key run where
  bounded := Nat.le_succ_of_le h.bounded
  only := by
    intro hp k r hr hv
    rw [get?_save] at hr
    split at hr
    · obtain rfl := Option.some.inj hr
      have := h.bounded
      simp only at hv
      omega
    · exact h.only hp k r hr hv

/-- A removal leaves a version assigned as it was. -/
theorem assigned_remove {s : Store} {n : Nat} {key : RunKey} {run : Run}
    (h : Assigned s n key run) (key' : RunKey) : Assigned (s.remove key') n key run where
  bounded := h.bounded
  only := by
    intro hp k r hr hv
    rw [get?_remove] at hr
    split at hr
    · simp at hr
    · exact h.only hp k r hr hv

/-- Every change leaves a version assigned as it was. -/
theorem assigned_change {s s' : Store} {n : Nat} {key : RunKey} {run : Run}
    (h : Assigned s n key run) (hc : Change s s') : Assigned s' n key run := by
  cases hc with
  | none => exact h
  | save key' run' => exact assigned_save h key' run'
  | remove key' => exact assigned_remove h key'
  | saveRemove key' run' => exact assigned_remove (assigned_save h key' run') key'
  | spoil key' r run' hr =>
    refine ⟨h.bounded, ?_⟩
    intro hp
    simp [spoil] at hp

/-- No call takes an assigned version away. -/
theorem assigned_perform {s : Store} {n : Nat} {key : RunKey} {run : Run}
    (h : Assigned s n key run) (op : Operation) : Assigned (s.perform op).2 n key run :=
  assigned_change h (perform_change s op)

/-- An assigned version stays assigned after any calls. -/
theorem assigned_after {s : Store} {n : Nat} {key : RunKey} {run : Run}
    (h : Assigned s n key run) (ops : List Operation) : Assigned (s.after ops) n key run := by
  induction ops generalizing s with
  | nil => exact h
  | cons op ops ih => exact ih (assigned_perform h op)

end Store

end RunHerald
