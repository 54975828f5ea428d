/-!
# Dictionaries

Finite maps from texts, kept in ascending order of their keys (by code point).  Since the order
is part of the type, listing the entries needs no sorting.  Each operation is described by the
look-ups after it: `get?_insert`, `get?_erase`.
-/

namespace RemoteUi

/-! ## §1 Entries in order -/

/-- The entries with `key` set to `value`, at its place in the order. -/
def Dict.insertEntry {α : Type} (key : String) (value : α) :
    List (String × α) → List (String × α)
  | [] => [(key, value)]
  | (k, v) :: rest =>
    if key < k then (key, value) :: (k, v) :: rest
    else if k < key then (k, v) :: insertEntry key value rest
    else (key, value) :: rest

/-- A key of the entries after an insertion is the new key or an old one. -/
theorem Dict.mem_insertEntry {α : Type} {key : String} {value : α} {entries : List (String × α)}
    {e : String × α} (h : e ∈ insertEntry key value entries) :
    e = (key, value) ∨ e ∈ entries := by
  fun_induction insertEntry key value entries with
  | case1 => simpa using h
  | case2 k v rest _ => simpa using h
  | case3 k v rest _ _ ih =>
    rcases List.mem_cons.mp h with rfl | h
    · exact .inr (by simp)
    · exact (ih h).imp id (List.mem_cons_of_mem _)
  | case4 k v rest _ _ =>
    rcases List.mem_cons.mp h with rfl | h
    · exact .inl rfl
    · exact .inr (List.mem_cons_of_mem _ h)

/-- Insertion keeps the order. -/
theorem Dict.pairwise_insertEntry {α : Type} (key : String) (value : α)
    {entries : List (String × α)} (h : entries.Pairwise fun a b => a.1 < b.1) :
    (insertEntry key value entries).Pairwise fun a b => a.1 < b.1 := by
  fun_induction insertEntry key value entries with
  | case1 => simp
  | case2 k v rest hlt =>
    -- The new key comes before the first one and so before all others.
    refine List.pairwise_cons.mpr ⟨fun e he => ?_, h⟩
    rcases List.mem_cons.mp he with rfl | he
    · exact hlt
    · exact String.lt_trans hlt ((List.pairwise_cons.mp h).1 e he)
  | case3 k v rest _ hgt ih =>
    have ⟨hk, hrest⟩ := List.pairwise_cons.mp h
    refine List.pairwise_cons.mpr ⟨fun e he => ?_, ih hrest⟩
    rcases mem_insertEntry he with rfl | he
    · exact hgt
    · exact hk e he
  | case4 k v rest hlt hgt =>
    -- Neither key comes before the other, so they are the same.
    have hkey : k = key := String.le_antisymm (String.not_lt.mp hlt) (String.not_lt.mp hgt)
    have ⟨hk, hrest⟩ := List.pairwise_cons.mp h
    exact List.pairwise_cons.mpr ⟨fun e he => hkey ▸ hk e he, hrest⟩

/-! ## §2 The type -/

/-- A finite map from texts, in ascending order of its keys. -/
structure Dict (α : Type) where
  entries : List (String × α)
  sorted : entries.Pairwise fun a b => a.1 < b.1
  deriving DecidableEq, Repr

namespace Dict

variable {α : Type}

/-- The dictionary without entries. -/
def empty : Dict α := ⟨[], .nil⟩

instance : EmptyCollection (Dict α) := ⟨empty⟩

instance : Inhabited (Dict α) := ⟨empty⟩

/-- The dictionary with `key` set to `value`, whatever it was set to before. -/
def insert (dict : Dict α) (key : String) (value : α) : Dict α :=
  ⟨insertEntry key value dict.entries, pairwise_insertEntry key value dict.sorted⟩

/-- The dictionary without `key`. -/
def erase (dict : Dict α) (key : String) : Dict α :=
  ⟨dict.entries.filter (·.1 ≠ key), dict.sorted.filter _⟩

/-- The value of `key`, if it is set. -/
def get? (dict : Dict α) (key : String) : Option α :=
  (dict.entries.find? (·.1 = key)).map (·.2)

/-- Whether `key` is set. -/
def contains (dict : Dict α) (key : String) : Bool := (dict.get? key).isSome

/-- Whether no key is set. -/
def isEmpty (dict : Dict α) : Bool := dict.entries.isEmpty

/-- The keys, in ascending order. -/
def keys (dict : Dict α) : List String := dict.entries.map (·.1)

/-- The dictionary of a list of settings; of two settings of one key the later one holds. -/
def ofList (settings : List (String × α)) : Dict α :=
  settings.foldl (fun dict e => dict.insert e.1 e.2) ∅

@[ext] theorem ext {a b : Dict α} (h : a.entries = b.entries) : a = b := by
  cases a; cases b; simp_all

/-! ## §3 Look-ups after each operation -/

@[simp] theorem get?_empty (key : String) : (∅ : Dict α).get? key = none := rfl

/-- Looking up a key in the entries after an insertion. -/
theorem find?_insertEntry (key k : String) (value : α) (entries : List (String × α)) :
    ((insertEntry key value entries).find? (·.1 = k)).map (·.2) =
      if key = k then some value else (entries.find? (·.1 = k)).map (·.2) := by
  fun_induction insertEntry key value entries with
  | case1 => by_cases h : key = k <;> simp [h]
  | case2 k' v rest _ => by_cases h : key = k <;> simp [h]
  | case3 k' v rest _ hgt ih =>
    -- The new key goes further down; the first entry answers only for its own key.
    by_cases hk : k' = k
    · subst hk
      have hne : key ≠ k' := fun h => String.lt_irrefl _ (h ▸ hgt)
      simp [hne]
    · simpa [List.find?_cons, hk] using ih
  | case4 k' v rest hlt hgt =>
    have hkey : k' = key := String.le_antisymm (String.not_lt.mp hlt) (String.not_lt.mp hgt)
    by_cases h : key = k <;> simp [h, hkey]

/-- **An insertion changes the look-up of its key and of no other.** -/
theorem get?_insert (dict : Dict α) (key k : String) (value : α) :
    (dict.insert key value).get? k = if key = k then some value else dict.get? k :=
  find?_insertEntry key k value dict.entries

@[simp] theorem get?_insert_self (dict : Dict α) (key : String) (value : α) :
    (dict.insert key value).get? key = some value := by simp [get?_insert]

/-- **An erased key is not set, and every other key is as before.** -/
theorem get?_erase (dict : Dict α) (key k : String) :
    (dict.erase key).get? k = if key = k then none else dict.get? k := by
  unfold get? erase
  rw [List.find?_filter]
  split
  · next h => simp [h]
  · next h =>
    congr 2
    funext e
    by_cases he : e.1 = k <;> simp [he, Ne.symm h]

@[simp] theorem get?_erase_self (dict : Dict α) (key : String) :
    (dict.erase key).get? key = none := by simp [get?_erase]

/-- **The entries are the look-ups that succeed.** -/
theorem get?_eq_some_iff (dict : Dict α) (key : String) (value : α) :
    dict.get? key = some value ↔ (key, value) ∈ dict.entries := by
  obtain ⟨entries, sorted⟩ := dict
  unfold get?
  induction entries with
  | nil => simp
  | cons e rest ih =>
    have ⟨hfirst, hrest⟩ := List.pairwise_cons.mp sorted
    by_cases he : e.1 = key
    · -- The first entry answers; the order keeps its key out of the rest.
      have hnot : (key, value) ∉ rest := fun h => String.lt_irrefl _ (he ▸ hfirst _ h)
      subst he
      simp [hnot, Prod.ext_iff, eq_comm]
    · simpa [List.find?_cons, he, Prod.ext_iff, Ne.symm he] using ih hrest

end Dict

end RemoteUi
