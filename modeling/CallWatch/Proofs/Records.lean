import CallWatch.Record
import Mathlib.Data.List.Basic
import Mathlib.Tactic.Common
import Mathlib.Tactic.Lemma

/-!
Where the entries of a record are, and what each operation leaves of them.
-/

namespace CallWatch.Record

variable {α : Type} {r : Record α} {k : String} {v : α}

/-! ### Looking up -/

lemma get?_of_not_mem (h : k ∉ r.keys) : r.get? k = none := by
  induction r with
  | nil => rfl
  | cons p rest ih =>
    rw [keys, List.map_cons, List.mem_cons, not_or] at h
    rw [get?, if_neg (Ne.symm h.1), ih h.2]

lemma mem_of_get? (h : r.get? k = some v) : (k, v) ∈ r := by
  induction r with
  | nil => exact absurd h nofun
  | cons e rest ih =>
    rw [get?] at h
    split at h
    · rename_i hk
      obtain rfl := Option.some.inj h
      exact hk ▸ List.mem_cons_self
    · exact List.mem_cons_of_mem _ (ih h)

lemma isSome_get?_iff : (r.get? k).isSome ↔ k ∈ r.keys := by
  constructor
  · intro h
    obtain ⟨v, hv⟩ := Option.isSome_iff_exists.mp h
    exact List.mem_map_of_mem (mem_of_get? hv)
  · intro h
    by_contra hnone
    rw [Option.not_isSome_iff_eq_none] at hnone
    induction r with
    | nil => exact absurd h List.not_mem_nil
    | cons e rest ih =>
      rw [get?] at hnone
      split at hnone
      · exact absurd hnone (Option.some_ne_none _)
      · rename_i hne
        rcases List.mem_cons.mp h with rfl | hrest
        · exact hne rfl
        · exact ih hrest hnone

/-- Where no name is there twice, the value of a name is that of its entry. -/
lemma mem_iff (h : r.keys.Nodup) : (k, v) ∈ r ↔ r.get? k = some v := by
  refine ⟨fun hmem => ?_, mem_of_get?⟩
  induction r with
  | nil => exact absurd hmem nofun
  | cons e rest ih =>
    rw [keys, List.map_cons, List.nodup_cons] at h
    rw [get?]
    rcases List.mem_cons.mp hmem with rfl | hrest
    · exact if_pos rfl
    · have hkeys : k ∈ keys rest := List.mem_map.mpr ⟨_, hrest, rfl⟩
      have hne : e.1 ≠ k := fun hk => h.1 (hk ▸ hkeys)
      rw [if_neg hne, ih h.2 hrest]

lemma get?_filter {names : List String} (h : k ∈ names) (r : Record α) :
    get? (r.filter fun e => names.contains e.1) k = r.get? k := by
  induction r with
  | nil => rfl
  | cons e rest ih =>
    by_cases hmem : names.contains e.1 = true
    · rw [List.filter_cons, if_pos hmem, get?, ih, get?]
    · have hne : e.1 ≠ k := by
        rintro rfl
        exact hmem (List.contains_iff_mem.mpr h)
      rw [List.filter_cons, if_neg hmem, ih, get?, if_neg hne]

/-! ### Inserting -/

/-- A new name comes last. -/
lemma insert_of_not_mem (h : k ∉ r.keys) : r.insert k v = r ++ [(k, v)] := by
  induction r with
  | nil => rfl
  | cons p rest ih =>
    rw [keys, List.map_cons, List.mem_cons, not_or] at h
    rw [insert, if_neg (Ne.symm h.1), ih h.2, List.cons_append]

lemma keys_insert_of_not_mem (h : k ∉ r.keys) : (r.insert k v).keys = r.keys ++ [k] := by
  rw [insert_of_not_mem h, keys, List.map_append]
  rfl

/-- A name that is there keeps its place. -/
lemma keys_insert_of_mem (h : k ∈ r.keys) : (r.insert k v).keys = r.keys := by
  induction r with
  | nil => exact absurd h nofun
  | cons p rest ih =>
    rw [insert]
    split
    · rename_i hk
      rw [keys, List.map_cons, keys, List.map_cons, hk]
    · rename_i hne
      rcases List.mem_cons.mp h with rfl | hrest
      · exact absurd rfl hne
      · exact congrArg (p.1 :: ·) (ih hrest)

lemma get?_append_self (h : k ∉ r.keys) : get? (r ++ [(k, v)]) k = some v := by
  rw [← insert_of_not_mem h, get?_insert, if_pos rfl]

lemma insert_append_self {w : α} (h : k ∉ r.keys) :
    insert (r ++ [(k, v)]) k w = r ++ [(k, w)] := by
  induction r with
  | nil => simp [insert]
  | cons p rest ih =>
    rw [keys, List.map_cons, List.mem_cons, not_or] at h
    rw [List.cons_append, insert, if_neg (Ne.symm h.1), ih h.2, List.cons_append]

/-! ### Erasing -/

/-- Where no name is there twice, all entries but that of the name stay, in their order. -/
lemma erase_eq_filter (h : r.keys.Nodup) : r.erase k = r.filter fun e => e.1 ≠ k := by
  induction r with
  | nil => rfl
  | cons p rest ih =>
    rw [keys, List.map_cons, List.nodup_cons] at h
    rw [erase]
    split
    · rename_i hk
      have hrest : ∀ e ∈ rest, e.1 ≠ k := by
        rintro e he rfl
        exact h.1 (hk ▸ List.mem_map_of_mem he)
      rw [List.filter_cons, if_neg (by simpa using hk)]
      exact (List.filter_eq_self.mpr fun e he => by simpa using hrest e he).symm
    · rename_i hne
      rw [List.filter_cons, if_pos (by simpa using hne), ih h.2]

lemma keys_erase (h : r.keys.Nodup) : (r.erase k).keys = r.keys.filter fun j => j ≠ k := by
  rw [erase_eq_filter h, keys, keys, List.filter_map]
  rfl

lemma get?_erase (h : r.keys.Nodup) (k' : String) :
    (r.erase k).get? k' = if k' = k then none else r.get? k' := by
  split
  · rename_i hk
    subst hk
    refine get?_of_not_mem ?_
    rw [keys_erase h, List.mem_filter]
    simp
  · rename_i hne
    ext v
    rw [← mem_iff (nodup_erase k h), ← mem_iff h, erase_eq_filter h, List.mem_filter]
    simp [hne]

end CallWatch.Record
