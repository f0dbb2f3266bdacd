/-!
# Dictionaries with sorted keys

A `Dictionary β` maps texts to values and keeps its entries in ascending order of their keys, so two
dictionaries with the same look-ups are the same value and writing one out needs no further sorting.
The order is the order of code points, which is also the order of the UTF-8 bytes.

* `get?_insert` and `get?_erase` say what each operation does to every look-up.
* `ext` says that look-ups determine the dictionary.
-/

set_option autoImplicit false

namespace RunHerald

/-- A finite map from texts to values, its entries in strictly ascending order of their keys. -/
structure Dictionary (β : Type) where
  entries : List (String × β)
  sorted : entries.Pairwise (fun a b => a.1 < b.1)
  deriving DecidableEq

namespace Dictionary

variable {β : Type}

/-- The dictionary without entries. -/
def empty : Dictionary β := ⟨[], .nil⟩

instance : EmptyCollection (Dictionary β) := ⟨empty⟩

instance : Inhabited (Dictionary β) := ⟨empty⟩

/-- The value of the first pair with a key. -/
def lookup (k : String) : List (String × β) → Option β
  | [] => none
  | (k', v) :: rest => if k = k' then some v else lookup k rest

/-- The value stored under a key. -/
def get? (d : Dictionary β) (k : String) : Option β := lookup k d.entries

/-- Whether a key has a value. -/
def contains (d : Dictionary β) (k : String) : Bool := (d.get? k).isSome

/-- The keys in ascending order. -/
def keys (d : Dictionary β) : List String := d.entries.map (·.1)

/-- Whether there is no entry. -/
def isEmpty (d : Dictionary β) : Bool := d.entries.isEmpty

/-- Puts a pair where its key belongs, replacing the pair that has the same key. -/
def insertEntry (k : String) (v : β) : List (String × β) → List (String × β)
  | [] => [(k, v)]
  | (k', v') :: rest =>
    if k < k' then (k, v) :: (k', v') :: rest
    else if k' < k then (k', v') :: insertEntry k v rest
    else (k, v) :: rest

/-- An entry after an insertion is the new one or one from before. -/
theorem mem_insertEntry {k : String} {v : β} {l : List (String × β)} {p : String × β}
    (h : p ∈ insertEntry k v l) : p = (k, v) ∨ p ∈ l := by
  induction l with
  | nil => simpa [insertEntry] using h
  | cons q rest ih =>
    obtain ⟨k', v'⟩ := q
    unfold insertEntry at h
    split at h
    · simpa using h
    · split at h
      · rcases List.mem_cons.1 h with rfl | h
        · simp
        · rcases ih h with rfl | h <;> simp [*]
      · rcases List.mem_cons.1 h with rfl | h <;> simp [*]

/-- Keys of which neither comes first are the same. -/
theorem eq_of_not_lt {a b : String} (h : ¬a < b) (h' : ¬b < a) : a = b :=
  String.le_antisymm h' h

/-- An insertion keeps the entries in order. -/
theorem sorted_insertEntry {k : String} {v : β} {l : List (String × β)}
    (h : l.Pairwise (fun a b => a.1 < b.1)) :
    (insertEntry k v l).Pairwise (fun a b => a.1 < b.1) := by
  induction l with
  | nil => simp [insertEntry]
  | cons q rest ih =>
    obtain ⟨k', v'⟩ := q
    obtain ⟨hq, hrest⟩ := List.pairwise_cons.1 h
    unfold insertEntry
    split
    · rename_i hlt
      refine List.pairwise_cons.2 ⟨?_, h⟩
      intro p hp
      rcases List.mem_cons.1 hp with rfl | hp
      · exact hlt
      · exact String.lt_trans hlt (hq p hp)
    · split
      · rename_i hlt
        refine List.pairwise_cons.2 ⟨?_, ih hrest⟩
        intro p hp
        rcases mem_insertEntry hp with rfl | hp
        · exact hlt
        · exact hq p hp
      · rename_i h1 h2
        obtain rfl := eq_of_not_lt h1 h2
        exact List.pairwise_cons.2 ⟨hq, hrest⟩

/-- Stores a value under a key, in place of any earlier value. -/
def insert (d : Dictionary β) (k : String) (v : β) : Dictionary β :=
  ⟨insertEntry k v d.entries, sorted_insertEntry d.sorted⟩

/-- Drops the value stored under a key, if there is one. -/
def erase (d : Dictionary β) (k : String) : Dictionary β :=
  ⟨d.entries.filter (fun p => p.1 != k), d.sorted.filter _⟩

/-- The dictionary of a list of pairs; of two pairs with one key the later one counts. -/
def ofList (l : List (String × β)) : Dictionary β :=
  l.foldl (fun d p => d.insert p.1 p.2) empty

/-- An empty dictionary has no values. -/
@[simp] theorem get?_empty (k : String) : (empty : Dictionary β).get? k = none := rfl

/-- An insertion replaces the value of its key. -/
theorem lookup_insertEntry (k : String) (v : β) (l : List (String × β)) (q : String) :
    lookup q (insertEntry k v l) = if q = k then some v else lookup q l := by
  induction l with
  | nil => rfl
  | cons p rest ih =>
    obtain ⟨k', v'⟩ := p
    unfold insertEntry
    split
    · rfl
    · split
      · rename_i _ hlt
        simp only [lookup, ih]
        by_cases hq' : q = k'
        · have hne : q ≠ k := fun e => String.lt_irrefl _ (e ▸ hq' ▸ hlt)
          rw [if_pos hq', if_neg hne, if_pos hq']
        · simp only [if_neg hq']
      · rename_i h1 h2
        obtain rfl := eq_of_not_lt h1 h2
        by_cases hq : q = k <;> simp [lookup, hq]

/-- A value just stored is found, and no other look-up changes. -/
theorem get?_insert (d : Dictionary β) (k : String) (v : β) (q : String) :
    (d.insert k v).get? q = if q = k then some v else d.get? q :=
  lookup_insertEntry k v d.entries q

/-- A key that is dropped has no value, and the others have theirs. -/
theorem lookup_filter_ne (k : String) (l : List (String × β)) (q : String) :
    lookup q (l.filter (fun p => p.1 != k)) = if q = k then none else lookup q l := by
  induction l with
  | nil => simp [lookup]
  | cons p rest ih =>
    obtain ⟨k', v'⟩ := p
    by_cases hk : k' = k
    · have hf : ((k', v') :: rest).filter (fun p => p.1 != k)
          = rest.filter (fun p => p.1 != k) := by
        simp [hk]
      rw [hf, ih]
      by_cases hq : q = k
      · simp [hq]
      · have : q ≠ k' := fun e => hq (e.trans hk)
        simp [lookup, hq, this]
    · have hf : ((k', v') :: rest).filter (fun p => p.1 != k)
          = (k', v') :: rest.filter (fun p => p.1 != k) := by
        simp [hk]
      rw [hf]
      simp only [lookup, ih]
      by_cases hq : q = k'
      · have : q ≠ k := fun e => hk (hq.symm.trans e)
        simp [hq, hk]
      · simp [hq]

/-- A value just dropped is gone, and no other look-up changes. -/
theorem get?_erase (d : Dictionary β) (k q : String) :
    (d.erase k).get? q = if q = k then none else d.get? q :=
  lookup_filter_ne k d.entries q

/-- A key before all others has no value. -/
theorem lookup_eq_none_of_lt {k : String} {l : List (String × β)}
    (h : ∀ p ∈ l, k < p.1) : lookup k l = none := by
  induction l with
  | nil => rfl
  | cons p rest ih =>
    have hne : k ≠ p.1 := fun e => String.lt_irrefl _ (e ▸ h p (by simp))
    obtain ⟨k', v'⟩ := p
    simp only [lookup, if_neg hne]
    exact ih fun q hq => h q (List.mem_cons_of_mem _ hq)

/-- Entries in order are known by the values of all keys. -/
theorem entries_eq_of_lookup {l₁ l₂ : List (String × β)}
    (h₁ : l₁.Pairwise (fun a b => a.1 < b.1)) (h₂ : l₂.Pairwise (fun a b => a.1 < b.1))
    (h : ∀ q, lookup q l₁ = lookup q l₂) : l₁ = l₂ := by
  induction l₁ generalizing l₂ with
  | nil =>
    cases l₂ with
    | nil => rfl
    | cons p rest => have := h p.1; simp [lookup] at this
  | cons p rest ih =>
    cases l₂ with
    | nil => have := h p.1; simp [lookup] at this
    | cons p' rest' =>
      obtain ⟨hp, hrest⟩ := List.pairwise_cons.1 h₁
      obtain ⟨hp', hrest'⟩ := List.pairwise_cons.1 h₂
      obtain ⟨k, v⟩ := p
      obtain ⟨k', v'⟩ := p'
      have hk : k = k' := by
        rcases Std.lt_trichotomy k k' with hlt | heq | hgt
        · have := h k
          rw [lookup_eq_none_of_lt (l := (k', v') :: rest')] at this
          · simp [lookup] at this
          · intro q hq
            rcases List.mem_cons.1 hq with rfl | hq
            · exact hlt
            · exact String.lt_trans hlt (hp' q hq)
        · exact heq
        · have := h k'
          rw [lookup_eq_none_of_lt (l := (k, v) :: rest)] at this
          · simp [lookup] at this
          · intro q hq
            rcases List.mem_cons.1 hq with rfl | hq
            · exact hgt
            · exact String.lt_trans hgt (hp q hq)
      subst hk
      have hv : v = v' := by simpa [lookup] using h k
      subst hv
      congr 1
      refine ih hrest hrest' fun q => ?_
      by_cases hq : q = k
      · rw [hq, lookup_eq_none_of_lt hp, lookup_eq_none_of_lt hp']
      · simpa [lookup, hq] using h q

/-- Two dictionaries with the same look-ups are the same dictionary. -/
theorem ext {d₁ d₂ : Dictionary β} (h : ∀ q, d₁.get? q = d₂.get? q) : d₁ = d₂ := by
  obtain ⟨l₁, h₁⟩ := d₁
  obtain ⟨l₂, h₂⟩ := d₂
  obtain rfl : l₁ = l₂ := entries_eq_of_lookup h₁ h₂ h
  rfl

end Dictionary

/-- A finite set of texts, in ascending order: a dictionary that only has keys. -/
abbrev TextSet := Dictionary Unit

namespace TextSet

/-- The set of the texts in a list. -/
def ofList (l : List String) : TextSet := Dictionary.ofList (l.map fun t => (t, ()))

/-- The members in ascending order. -/
def toList (s : TextSet) : List String := Dictionary.keys s

/-- Adds a member; nothing changes if it is there already. -/
def add (s : TextSet) (t : String) : TextSet := Dictionary.insert s t ()

/-- Whether a text is a member. -/
def has (s : TextSet) (t : String) : Bool := Dictionary.contains s t

/-- A text that is added joins those that there are. -/
theorem has_add (s : TextSet) (t q : String) : (add s t).has q = (q == t || s.has q) := by
  by_cases h : q = t <;> simp [has, add, Dictionary.contains, Dictionary.get?_insert, h]

/-- A text that is dropped leaves the others. -/
theorem has_erase (s : TextSet) (t q : String) : has (s.erase t) q = (q != t && s.has q) := by
  by_cases h : q = t <;> simp [has, Dictionary.contains, Dictionary.get?_erase, h]

end TextSet

end RunHerald
