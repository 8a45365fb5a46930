import CallWatch.Text.Blank
import Mathlib.Data.List.Basic
import Mathlib.Data.List.TakeWhile
import Mathlib.Tactic.Common
import Mathlib.Tactic.Lemma

/-!
Trimming, by what it leaves.

A text is trimmed to the part of it that has only blanks before it and after it and no blank at
either of its own ends. There is one such part, and `trimChars` finds it (`trimmed_iff`).
-/

namespace CallWatch.Text

/-- The text `ds` is what is left of `cs` without the blanks around it. -/
structure Trimmed (cs ds : List Char) : Prop where
  around : ∃ u v, cs = u ++ (ds ++ v) ∧ (∀ c ∈ u, isBlank c = true) ∧ ∀ c ∈ v, isBlank c = true
  first : StartsSolid ds
  last : StartsSolid ds.reverse

lemma trimLeft_append {u : List Char} (h : ∀ c ∈ u, isBlank c = true) (cs : List Char) :
    trimLeft (u ++ cs) = trimLeft cs := by
  rw [trimLeft, List.dropWhile_append_of_pos h, ← trimLeft]

lemma trimRight_append {v : List Char} (h : ∀ c ∈ v, isBlank c = true) (cs : List Char) :
    trimRight (cs ++ v) = trimRight cs := by
  rw [trimRight_eq, List.reverse_append, trimLeft_append fun c hc => h c (List.mem_reverse.mp hc),
    ← trimRight_eq]

lemma Trimmed.trimChars_eq {cs ds : List Char} (h : Trimmed cs ds) : trimChars cs = ds := by
  obtain ⟨⟨u, v, rfl, hu, hv⟩, hfirst, hlast⟩ := h
  rw [trimChars, trimLeft_append hu]
  obtain _ | ⟨d, ds⟩ := ds
  · have hempty : trimLeft v = [] := List.dropWhile_eq_nil_iff.mpr hv
    rw [List.nil_append, hempty]
    rfl
  · have hsolid : StartsSolid (d :: ds ++ v) := by
      intro c r hc
      obtain ⟨rfl, -⟩ := List.cons.inj hc
      exact hfirst _ ds rfl
    rw [trimLeft_of_startsSolid hsolid, trimRight_append hv, trimRight_eq,
      trimLeft_of_startsSolid hlast, List.reverse_reverse]

lemma trimmed_trimChars (cs : List Char) : Trimmed cs (trimChars cs) where
  around := by
    refine ⟨cs.takeWhile isBlank, ((trimLeft cs).reverse.takeWhile isBlank).reverse, ?_, ?_, ?_⟩
    · have hright : trimChars cs ++ ((trimLeft cs).reverse.takeWhile isBlank).reverse =
          trimLeft cs := by
        rw [trimChars, trimRight, ← List.reverse_append, List.takeWhile_append_dropWhile,
          List.reverse_reverse]
      rw [hright, trimLeft, List.takeWhile_append_dropWhile]
    · exact fun c hc => List.mem_takeWhile_imp hc
    · exact fun c hc => List.mem_takeWhile_imp (List.mem_reverse.mp hc)
  first := startsSolid_trimRight (startsSolid_trimLeft cs)
  last := by
    rw [trimChars, trimRight_eq, List.reverse_reverse]
    exact startsSolid_trimLeft _

/-- **Trimming leaves the one part of a text that is solid at its ends and has blanks around
it.** -/
theorem trimmed_iff {cs ds : List Char} : Trimmed cs ds ↔ trimChars cs = ds := by
  constructor
  · exact Trimmed.trimChars_eq
  · rintro rfl
    exact trimmed_trimChars cs

end CallWatch.Text
