/-!
Texts in bytes of their UTF-8 form: positions, and cutting at them.

Only a position between two characters cuts a text, and a part is cut off at its own length
(`splitBytes?_byteLength`).
-/

namespace CallWatch.Text

def byteLength : List Char → Nat
  | [] => 0
  | c :: cs => c.utf8Size + byteLength cs

/-- The position of the first occurrence of a character. -/
def position? (c : Char) : List Char → Option Nat
  | [] => none
  | d :: ds => if d = c then some 0 else (position? c ds).map (d.utf8Size + ·)

/-- What comes before a position, and what comes from it on. -/
def splitBytes? : Nat → List Char → Option (List Char × List Char)
  | 0, cs => some ([], cs)
  | _ + 1, [] => none
  | n + 1, c :: cs =>
    if c.utf8Size ≤ n + 1 then
      (splitBytes? (n + 1 - c.utf8Size) cs).map fun p => (c :: p.1, p.2)
    else none

/-- The part between two positions. -/
def slice? (first last : Nat) (cs : List Char) : Option (List Char) :=
  (splitBytes? first cs).bind fun p => (splitBytes? (last - first) p.2).map Prod.fst

theorem byteLength_append (u v : List Char) :
    byteLength (u ++ v) = byteLength u + byteLength v := by
  induction u with
  | nil => rw [List.nil_append, byteLength, Nat.zero_add]
  | cons c u ih => rw [List.cons_append, byteLength, byteLength, ih, Nat.add_assoc]

theorem eq_nil_of_byteLength_eq_zero {u : List Char} (h : byteLength u = 0) : u = [] := by
  cases u with
  | nil => rfl
  | cons c u =>
    have hc := c.utf8Size_pos
    rw [byteLength] at h
    omega

/-- Dropping characters keeps the length only if there are none to drop. -/
theorem dropWhile_eq_self {p : Char → Bool} {cs : List Char}
    (h : byteLength cs = byteLength (cs.dropWhile p)) : cs.dropWhile p = cs := by
  have hparts := List.takeWhile_append_dropWhile (p := p) (l := cs)
  have hlength := congrArg byteLength hparts
  rw [byteLength_append] at hlength
  have hnone : cs.takeWhile p = [] := eq_nil_of_byteLength_eq_zero (by omega)
  rwa [hnone, List.nil_append] at hparts

theorem splitBytes?_byteLength (u v : List Char) :
    splitBytes? (byteLength u) (u ++ v) = some (u, v) := by
  induction u with
  | nil => rw [byteLength, List.nil_append, splitBytes?]
  | cons c u ih =>
    have hc := c.utf8Size_pos
    obtain ⟨n, hn⟩ : ∃ n, c.utf8Size + byteLength u = n + 1 :=
      ⟨c.utf8Size + byteLength u - 1, by omega⟩
    rw [byteLength, hn, List.cons_append, splitBytes?, if_pos (by omega),
      show n + 1 - c.utf8Size = byteLength u by omega, ih]
    rfl

theorem position?_append {c : Char} {u : List Char} (h : c ∉ u) (v : List Char) :
    position? c (u ++ c :: v) = some (byteLength u) := by
  induction u with
  | nil => exact if_pos rfl
  | cons d u ih =>
    have h := List.ne_and_not_mem_of_not_mem_cons h
    rw [List.cons_append, position?, if_neg (Ne.symm h.1), ih h.2]
    rfl

theorem eq_append_of_position? {c : Char} {cs : List Char} {n : Nat}
    (h : position? c cs = some n) : ∃ u v, cs = u ++ c :: v ∧ c ∉ u ∧ n = byteLength u := by
  induction cs generalizing n with
  | nil => cases h
  | cons d ds ih =>
    rw [position?] at h
    split at h
    case isTrue hd =>
      cases h
      exact ⟨[], ds, by rw [hd, List.nil_append], List.not_mem_nil, rfl⟩
    case isFalse hd =>
      obtain ⟨m, hm, rfl⟩ := Option.map_eq_some_iff.mp h
      obtain ⟨u, v, rfl, hu, rfl⟩ := ih hm
      exact ⟨d :: u, v, rfl, List.not_mem_cons_of_ne_of_not_mem (Ne.symm hd) hu, rfl⟩

/-- A text is read back from its bytes. -/
theorem fromUTF8?_toUTF8 (s : String) : String.fromUTF8? s.toUTF8 = some s :=
  dif_pos s.isValidUTF8

end CallWatch.Text
