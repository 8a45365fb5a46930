import CallWatch.Text.Ranges

/-!
Blanks and trimming.

A blank is a character with the Unicode property White_Space; `trim` drops the blanks at
both ends of a text and nothing else, so trimming twice is trimming once (`trim_trim`).
-/

namespace CallWatch.Text

/-- The characters with the property White_Space. -/
def blankRanges : List (Nat × Nat) := [
  (0x9, 0xd), (0x20, 0x20), (0x85, 0x85), (0xa0, 0xa0), (0x1680, 0x1680), (0x2000, 0x200a),
  (0x2028, 0x2029), (0x202f, 0x202f), (0x205f, 0x205f), (0x3000, 0x3000)]

def isBlank (c : Char) : Bool := inRanges blankRanges c

def trimLeft (cs : List Char) : List Char := cs.dropWhile isBlank

def trimRight (cs : List Char) : List Char := (cs.reverse.dropWhile isBlank).reverse

def trimChars (cs : List Char) : List Char := trimRight (trimLeft cs)

def trim (s : String) : String := String.ofList (trimChars s.toList)

/-- The ASCII lower-case form; letters beyond ASCII stay as they are. -/
def lower (s : String) : String := String.ofList (s.toList.map Char.toLower)

/-- The first character is no blank. -/
def StartsSolid (cs : List Char) : Prop := ∀ c r, cs = c :: r → isBlank c = false

theorem startsSolid_trimLeft (cs : List Char) : StartsSolid (trimLeft cs) := by
  induction cs with
  | nil => intro c r h; cases h
  | cons a cs ih =>
    cases ha : isBlank a with
    | true => simpa [trimLeft, ha] using ih
    | false =>
      intro c r h
      simp only [trimLeft, List.dropWhile_cons, ha, Bool.false_eq_true, if_false,
        List.cons.injEq] at h
      exact h.1 ▸ ha

theorem trimLeft_of_startsSolid {cs : List Char} (h : StartsSolid cs) : trimLeft cs = cs := by
  cases cs with
  | nil => rfl
  | cons c r => simp [trimLeft, h c r rfl]

theorem trimRight_eq (cs : List Char) : trimRight cs = (trimLeft cs.reverse).reverse := rfl

theorem trimRight_trimRight (cs : List Char) : trimRight (trimRight cs) = trimRight cs := by
  simp [trimRight_eq, trimLeft_of_startsSolid (startsSolid_trimLeft _)]

theorem trimRight_prefix (cs : List Char) : ∃ blanks, cs = trimRight cs ++ blanks := by
  refine ⟨(cs.reverse.takeWhile isBlank).reverse, ?_⟩
  rw [trimRight, ← List.reverse_append, List.takeWhile_append_dropWhile, List.reverse_reverse]

theorem startsSolid_trimRight {cs : List Char} (h : StartsSolid cs) :
    StartsSolid (trimRight cs) := by
  obtain ⟨blanks, hb⟩ := trimRight_prefix cs
  intro c r hc
  rw [hc] at hb
  exact h c (r ++ blanks) (by simpa using hb)

theorem trimChars_trimChars (cs : List Char) : trimChars (trimChars cs) = trimChars cs := by
  have h := trimLeft_of_startsSolid (startsSolid_trimRight (startsSolid_trimLeft cs))
  simp only [trimChars, h, trimRight_trimRight]

theorem trimChars_of_solid {cs : List Char} (h : ∀ c ∈ cs, isBlank c = false) :
    trimChars cs = cs := by
  have solid : ∀ ds : List Char, (∀ c ∈ ds, isBlank c = false) → trimLeft ds = ds := fun ds hd =>
    trimLeft_of_startsSolid fun c r e => hd c (by simp [e])
  rw [trimChars, solid cs h, trimRight_eq, solid cs.reverse (by simpa using h),
    List.reverse_reverse]

@[simp] theorem trim_trim (s : String) : trim (trim s) = trim s := by
  simp [trim, trimChars_trimChars]

end CallWatch.Text
