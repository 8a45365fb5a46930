/-!
Records: lists of named entries in the order of their first insertion.

An entry keeps its place while its name stays present: `insert` writes over it where it
stands and appends it otherwise, `erase` takes it out and closes the gap. `get?_insert`,
`get?_erase` and the lemmas on `keys` say so.
-/

namespace CallWatch

abbrev Record (α : Type) := List (String × α)

namespace Record

variable {α : Type}

def keys (r : Record α) : List String := r.map Prod.fst

def get? (r : Record α) (k : String) : Option α :=
  match r with
  | [] => none
  | (k', v) :: rest => if k' = k then some v else get? rest k

def insert (r : Record α) (k : String) (v : α) : Record α :=
  match r with
  | [] => [(k, v)]
  | (k', v') :: rest => if k' = k then (k, v) :: rest else (k', v') :: insert rest k v

def erase (r : Record α) (k : String) : Record α :=
  match r with
  | [] => []
  | (k', v') :: rest => if k' = k then rest else (k', v') :: erase rest k

/-- The record that results from inserting the entries one after the other. -/
def ofPairs (pairs : List (String × α)) : Record α :=
  pairs.foldl (fun r p => r.insert p.1 p.2) []

theorem mem_keys_insert {r : Record α} {k k' : String} {v : α} :
    k' ∈ (r.insert k v).keys ↔ k' = k ∨ k' ∈ r.keys := by
  induction r with
  | nil => simp [insert, keys]
  | cons p rest ih =>
    obtain ⟨a, b⟩ := p
    by_cases h : a = k
    · simp [insert, keys, h]
    · simp only [insert, h, if_false]
      simp only [keys, List.map_cons, List.mem_cons] at ih ⊢
      rw [ih]
      exact or_left_comm

theorem nodup_insert {r : Record α} (k : String) (v : α) (h : r.keys.Nodup) :
    (r.insert k v).keys.Nodup := by
  induction r with
  | nil => simp [insert, keys]
  | cons p rest ih =>
    obtain ⟨a, b⟩ := p
    rw [keys, List.map_cons, List.nodup_cons] at h
    by_cases hk : a = k
    · subst hk
      simpa [insert, keys] using h
    · simp only [insert, hk, if_false, keys, List.map_cons, List.nodup_cons]
      refine ⟨fun hm => ?_, ih h.2⟩
      rcases mem_keys_insert.1 hm with e | e
      · exact hk e
      · exact h.1 e

theorem mem_keys_of_mem_keys_erase {r : Record α} {k k' : String}
    (h : k' ∈ (r.erase k).keys) : k' ∈ r.keys := by
  induction r with
  | nil => exact h
  | cons p rest ih =>
    obtain ⟨a, b⟩ := p
    by_cases hk : a = k
    · simp only [erase, hk, if_true] at h
      exact List.mem_cons_of_mem _ h
    · simp only [erase, hk, if_false, keys, List.map_cons, List.mem_cons] at h ⊢
      exact h.imp_right ih

theorem nodup_erase {r : Record α} (k : String) (h : r.keys.Nodup) :
    (r.erase k).keys.Nodup := by
  induction r with
  | nil => exact h
  | cons p rest ih =>
    obtain ⟨a, b⟩ := p
    rw [keys, List.map_cons, List.nodup_cons] at h
    by_cases hk : a = k
    · simpa [erase, hk, keys] using h.2
    · simp only [erase, hk, if_false, keys, List.map_cons, List.nodup_cons]
      exact ⟨fun hm => h.1 (mem_keys_of_mem_keys_erase hm), ih h.2⟩

theorem nodup_foldl_insert (pairs : List (String × α)) {r : Record α} (h : r.keys.Nodup) :
    (pairs.foldl (fun r p => r.insert p.1 p.2) r).keys.Nodup := by
  induction pairs generalizing r with
  | nil => exact h
  | cons p rest ih => exact ih (nodup_insert _ _ h)

theorem nodup_ofPairs (pairs : List (String × α)) : (ofPairs pairs).keys.Nodup :=
  nodup_foldl_insert pairs List.nodup_nil

theorem get?_insert (r : Record α) (k k' : String) (v : α) :
    (r.insert k v).get? k' = if k' = k then some v else r.get? k' := by
  induction r with
  | nil => simp [insert, get?, eq_comm]
  | cons p rest ih =>
    obtain ⟨a, b⟩ := p
    by_cases h : a = k
    · subst h
      by_cases h' : k' = a <;> simp [insert, get?, h', eq_comm]
    · by_cases h' : a = k'
      · subst h'
        simp [insert, get?, h]
      · simp [insert, get?, h, h', ih]

end Record

end CallWatch
