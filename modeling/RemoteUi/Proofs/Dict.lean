import Mathlib.Data.List.Sort
import RemoteUi.Dict

/-!
# Dictionaries and their look-ups

The entries of a dictionary are in ascending order, so nothing but the look-ups tells one dictionary
from another, and the entries make up the dictionary again.
-/

namespace RemoteUi.Dict

variable {α : Type}

/-- No key is there twice. -/
theorem nodup_keys (dict : Dict α) : dict.keys.Nodup := by
  refine List.Pairwise.map _ ?_ dict.sorted
  intro x y hlt heq
  exact String.lt_irrefl _ (heq ▸ hlt)

/-- **Dictionaries with the same look-ups are equal.** -/
theorem ext_get? {a b : Dict α} (h : ∀ key, a.get? key = b.get? key) : a = b := by
  apply ext
  -- Both lists ascend, so it is enough that they have the same members.
  have hmem : ∀ e, e ∈ a.entries ↔ e ∈ b.entries := by
    rintro ⟨key, value⟩
    rw [← get?_eq_some_iff, ← get?_eq_some_iff, h]
  have hnodup : ∀ d : Dict α, d.entries.Nodup := fun d => d.nodup_keys.of_map _
  have hperm : a.entries.Perm b.entries :=
    (List.perm_ext_iff_of_nodup (hnodup a) (hnodup b)).mpr hmem
  exact hperm.eq_of_pairwise (fun x y _ _ hxy hyx => absurd hyx (String.lt_asymm hxy))
    a.sorted b.sorted

/-- Setting a key to the value that it has changes nothing. -/
theorem insert_eq_self {dict : Dict α} {key : String} {value : α}
    (h : dict.get? key = some value) : dict.insert key value = dict := by
  apply ext_get?
  intro k
  rw [get?_insert]
  split
  · next heq => rw [← heq, h]
  · rfl

/-- Looking up a key after settings of distinct keys, one after the other. -/
theorem get?_foldl_insert (dict : Dict α) {settings : List (String × α)}
    (h : (settings.map (·.1)).Nodup) (key : String) :
    (settings.foldl (fun dict e => dict.insert e.1 e.2) dict).get? key =
      ((settings.find? (·.1 = key)).map (·.2)).or (dict.get? key) := by
  induction settings generalizing dict with
  | nil => rfl
  | cons e settings ih =>
    rw [List.map_cons, List.nodup_cons] at h
    rw [List.foldl_cons, ih (dict.insert e.1 e.2) h.2, get?_insert]
    by_cases hkey : e.1 = key
    · -- The key is not set again.
      have hnone : settings.find? (·.1 = key) = none := by
        rw [List.find?_eq_none]
        intro f hf heq
        exact h.1 (List.mem_map.mpr ⟨f, hf, hkey ▸ by simpa using heq⟩)
      simp [hkey, hnone]
    · simp [hkey]

/-- **The entries of a dictionary make up the dictionary.** -/
theorem ofList_entries (dict : Dict α) : ofList dict.entries = dict := by
  apply ext_get?
  intro key
  rw [ofList, get?_foldl_insert ∅ dict.nodup_keys, get?_empty, Option.or_none]
  rfl

/-- A key after some settings was there before, or it was set. -/
theorem mem_keys_foldl_insert {dict : Dict α} {settings : List (String × α)} {key : String}
    (h : key ∈ (settings.foldl (fun dict e => dict.insert e.1 e.2) dict).keys) :
    key ∈ dict.keys ∨ key ∈ settings.map (·.1) := by
  induction settings generalizing dict with
  | nil => exact .inl h
  | cons e settings ih =>
    rcases ih h with hmem | hmem
    · -- One insertion adds one key at most.
      obtain ⟨f, hf, rfl⟩ := List.mem_map.mp hmem
      rcases mem_insertEntry hf with rfl | hf
      · exact .inr List.mem_cons_self
      · exact .inl (List.mem_map.mpr ⟨f, hf, rfl⟩)
    · exact .inr (List.mem_cons_of_mem _ hmem)

/-- The keys of a dictionary that was made up from settings are among those that were set. -/
theorem mem_keys_ofList {settings : List (String × α)} {key : String}
    (h : key ∈ (ofList settings).keys) : key ∈ settings.map (·.1) :=
  (mem_keys_foldl_insert h).resolve_left List.not_mem_nil

end RemoteUi.Dict
