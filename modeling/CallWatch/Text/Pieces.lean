/-!
Texts taken apart at a separator.

A piece ends at the first separator (`pieces_append_sep`), and joining the pieces of a text gives
it back (`join_pieces`).
-/

namespace CallWatch.Text

/-- The pieces between separators; where two of them meet the piece is empty. -/
def pieces (sep : Char) : List Char → List (List Char)
  | [] => [[]]
  | c :: cs =>
    if c = sep then [] :: pieces sep cs
    else match pieces sep cs with
      | [] => [[c]]
      | p :: ps => (c :: p) :: ps

/-- The pieces with a separator between each two of them. -/
def join (sep : Char) : List (List Char) → List Char
  | [] => []
  | [p] => p
  | p :: ps => p ++ sep :: join sep ps

theorem pieces_cons_sep (sep : Char) (cs : List Char) :
    pieces sep (sep :: cs) = [] :: pieces sep cs := if_pos rfl

theorem pieces_cons_of_ne {sep c : Char} (h : c ≠ sep) {p : List Char} {ps : List (List Char)}
    {cs : List Char} (hp : pieces sep cs = p :: ps) :
    pieces sep (c :: cs) = (c :: p) :: ps := by
  rw [pieces, if_neg h, hp]

theorem pieces_eq_cons (sep : Char) (cs : List Char) : ∃ p ps, pieces sep cs = p :: ps := by
  cases cs with
  | nil => exact ⟨[], [], rfl⟩
  | cons c cs =>
    by_cases h : c = sep
    · exact ⟨[], pieces sep cs, by rw [pieces, if_pos h]⟩
    · rw [pieces, if_neg h]
      split
      · exact ⟨_, _, rfl⟩
      · exact ⟨_, _, rfl⟩

@[simp] theorem join_pieces (sep : Char) (cs : List Char) : join sep (pieces sep cs) = cs := by
  induction cs with
  | nil => rfl
  | cons c cs ih =>
    obtain ⟨p, ps, hp⟩ := pieces_eq_cons sep cs
    rw [hp] at ih
    by_cases hc : c = sep
    · subst hc
      rw [pieces_cons_sep, hp, join, ih]
      · rfl
      · simp
    · rw [pieces_cons_of_ne hc hp]
      cases ps with
      | nil => rw [join] at ih ⊢; rw [ih]
      | cons q qs => simpa [join] using ih

theorem pieces_append_sep {sep : Char} {p : List Char} (h : sep ∉ p) (cs : List Char) :
    pieces sep (p ++ sep :: cs) = p :: pieces sep cs := by
  induction p with
  | nil => exact pieces_cons_sep sep cs
  | cons c p ih =>
    have h := List.ne_and_not_mem_of_not_mem_cons h
    exact pieces_cons_of_ne (Ne.symm h.1) (ih h.2)

theorem pieces_of_not_mem {sep : Char} {p : List Char} (h : sep ∉ p) : pieces sep p = [p] := by
  induction p with
  | nil => rfl
  | cons c p ih =>
    have h := List.ne_and_not_mem_of_not_mem_cons h
    exact pieces_cons_of_ne (Ne.symm h.1) (ih h.2)

end CallWatch.Text
