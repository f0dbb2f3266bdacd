/-!
# Tables without an order

A `Table α β` maps keys of any type with decidable equality to values. Each key has at most one
row, so `size` counts the keys. Nothing depends on the order of the rows.

`get?_put` and `get?_drop` say what each operation does to every look-up.
-/

set_option autoImplicit false

namespace RunHerald

/-- A finite map, held as rows with distinct keys. -/
structure Table (α β : Type) where
  rows : List (α × β)
  nodup : (rows.map (·.1)).Nodup

namespace Table

variable {α β : Type} [DecidableEq α]

/-- The table without rows. -/
def empty : Table α β := ⟨[], .nil⟩

instance : Inhabited (Table α β) := ⟨empty⟩

/-- The value of the first row with a key. -/
def find (k : α) : List (α × β) → Option β
  | [] => none
  | (k', v) :: rest => if k = k' then some v else find k rest

/-- The value in the row of a key. -/
def get? (t : Table α β) (k : α) : Option β := find k t.rows

/-- The number of keys. -/
def size (t : Table α β) : Nat := t.rows.length

/-- The rows of the other keys. -/
def others (k : α) (rows : List (α × β)) : List (α × β) := rows.filter (fun p => p.1 ≠ k)

/-- The other rows have keys that differ. -/
theorem nodup_others {k : α} {rows : List (α × β)} (h : (rows.map (·.1)).Nodup) :
    ((others k rows).map (·.1)).Nodup :=
  h.sublist (List.filter_sublist.map _)

/-- A key is not among those of the other rows. -/
theorem not_mem_others (k : α) (rows : List (α × β)) : k ∉ (others k rows).map (·.1) := by
  simp [others]

/-- Writes the row of a key, in place of any earlier one. -/
def put (t : Table α β) (k : α) (v : β) : Table α β :=
  ⟨(k, v) :: others k t.rows, List.nodup_cons.2 ⟨not_mem_others k _, nodup_others t.nodup⟩⟩

/-- Removes the row of a key, if there is one. -/
def drop (t : Table α β) (k : α) : Table α β := ⟨others k t.rows, nodup_others t.nodup⟩

/-- An empty table has no values. -/
@[simp] theorem get?_empty (k : α) : (empty : Table α β).get? k = none := rfl

/-- The other rows have the values of all other keys. -/
theorem find_others (k : α) (rows : List (α × β)) (q : α) :
    find q (others k rows) = if q = k then none else find q rows := by
  induction rows with
  | nil => simp [others, find]
  | cons p rest ih =>
    obtain ⟨k', v'⟩ := p
    by_cases hk : k' = k
    · have hf : others k ((k', v') :: rest) = others k rest := by simp [others, hk]
      rw [hf, ih]
      by_cases hq : q = k
      · simp [hq]
      · have : q ≠ k' := fun e => hq (e.trans hk)
        simp [find, hq, this]
    · have hf : others k ((k', v') :: rest) = (k', v') :: others k rest := by simp [others, hk]
      rw [hf]
      simp only [find, ih]
      by_cases hq : q = k'
      · simp [hq, hk]
      · simp [hq]

/-- The row just written is found, and no other look-up changes. -/
theorem get?_put (t : Table α β) (k : α) (v : β) (q : α) :
    (t.put k v).get? q = if q = k then some v else t.get? q := by
  by_cases h : q = k
  · simp [get?, put, find, h]
  · simp [get?, put, find, find_others, h]

/-- The row just removed is gone, and no other look-up changes. -/
theorem get?_drop (t : Table α β) (k q : α) :
    (t.drop k).get? q = if q = k then none else t.get? q :=
  find_others k t.rows q

end Table

end RunHerald
