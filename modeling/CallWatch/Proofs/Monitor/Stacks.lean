import CallWatch.Monitor.Basic
import Mathlib.Data.List.Nodup
import Mathlib.Data.List.Perm.Basic

/-!
The registry read as one stack of frames a thread.

A registry is sound if every thread has at most one entry and no entry is empty. Pushing and
popping keep it so; a thread's stack grows and shrinks at the top and the stacks of the
other threads stay.
-/

namespace CallWatch.Registry

/-- The frames of a thread, innermost first; none if it has no entry. -/
def stack (n : Nat) : Registry → List Frame
  | [] => []
  | i :: rest => if i.thread.number = n then i.frames else stack n rest

/-- The frames of all threads. -/
def frames (r : Registry) : List Frame := r.flatMap Invocation.frames

def numbers (r : Registry) : List Nat := r.map fun i => i.thread.number

structure Sound (r : Registry) : Prop where
  numbers_nodup : r.numbers.Nodup
  frames_ne_nil : ∀ i ∈ r, i.frames ≠ []

variable {r : Registry} {t : Thread} {f : Frame} {fs : List Frame} {n m s : Nat} {i : Invocation}

lemma sound_nil : Sound [] := ⟨List.nodup_nil, by simp⟩

@[simp] lemma stack_nil : stack n [] = [] := rfl
@[simp] lemma frames_nil : frames [] = [] := rfl
@[simp] lemma frames_cons : frames (i :: r) = i.frames ++ frames r := rfl
@[simp] lemma numbers_nil : numbers [] = [] := rfl
@[simp] lemma numbers_cons : numbers (i :: r) = i.thread.number :: numbers r := rfl

lemma tracks_iff : r.tracks n = true ↔ n ∈ r.numbers := by
  simp [tracks, numbers]

lemma stack_eq_nil (h : n ∉ r.numbers) : stack n r = [] := by
  induction r with
  | nil => rfl
  | cons i r ih =>
    rw [numbers_cons, List.mem_cons, not_or] at h
    rw [stack, if_neg (Ne.symm h.1), ih h.2]

lemma mem_frames_of_mem_stack (h : f ∈ stack n r) : f ∈ r.frames := by
  induction r with
  | nil => simp at h
  | cons i r ih =>
    rw [stack] at h
    split_ifs at h
    · exact List.mem_append_left _ h
    · exact List.mem_append_right _ (ih h)

lemma Sound.tail (h : Sound (i :: r)) : Sound r :=
  ⟨(List.nodup_cons.mp h.numbers_nodup).2,
    fun j hj => h.frames_ne_nil j (List.mem_cons_of_mem _ hj)⟩

lemma Sound.not_mem (h : Sound (i :: r)) : i.thread.number ∉ numbers r :=
  (List.nodup_cons.mp h.numbers_nodup).1

lemma Sound.stack_of_mem (h : r.Sound) (hi : i ∈ r) : stack i.thread.number r = i.frames := by
  induction r with
  | nil => simp at hi
  | cons j r ih =>
    rcases List.mem_cons.mp hi with rfl | hi
    · rw [stack, if_pos rfl]
    · have hne : j.thread.number ≠ i.thread.number := by
        intro he
        exact h.not_mem (he ▸ List.mem_map_of_mem hi)
      rw [stack, if_neg hne, ih h.tail hi]

lemma Sound.eq_nil (hr : r.Sound) (h : ∀ i ∈ r, stack i.thread.number r = []) : r = [] := by
  refine List.eq_nil_iff_forall_not_mem.mpr fun i hi => hr.frames_ne_nil i hi ?_
  rw [← hr.stack_of_mem hi, h i hi]

lemma Sound.tracks_iff_stack (h : r.Sound) : r.tracks n = true ↔ stack n r ≠ [] := by
  rw [tracks_iff]
  refine ⟨fun hn => ?_, fun hs => by_contra fun hn => hs (stack_eq_nil hn)⟩
  obtain ⟨i, hi, rfl⟩ := List.mem_map.mp hn
  rw [h.stack_of_mem hi]
  exact h.frames_ne_nil i hi

lemma Sound.filter_eq_self (h : r.Sound) : (r.filter fun i => !i.isEmpty) = r := by
  rw [List.filter_eq_self]
  intro i hi
  simpa [Invocation.isEmpty] using h.frames_ne_nil i hi

lemma frames_filter_sublist (p : Invocation → Bool) : (frames (r.filter p)).Sublist r.frames := by
  induction r with
  | nil => simp
  | cons i r ih =>
    rw [List.filter_cons]
    split_ifs
    · exact (List.Sublist.refl _).append ih
    · exact ih.trans (List.sublist_append_right _ _)

lemma length_frames {d : Nat} (h : ∀ i ∈ r, i.frames.length = d) :
    r.frames.length = r.length * d := by
  induction r with
  | nil => rw [frames_nil, List.length_nil, List.length_nil, Nat.zero_mul]
  | cons i r ih =>
    obtain ⟨hi, hr⟩ := List.forall_mem_cons.mp h
    rw [frames_cons, List.length_append, hi, ih hr, List.length_cons, Nat.succ_mul, Nat.add_comm]

/-! ### Pushing -/

lemma numbers_push :
    (r.push t f).numbers = if t.number ∈ r.numbers then r.numbers else r.numbers ++ [t.number] := by
  induction r with
  | nil => simp [push]
  | cons i r ih =>
    by_cases hi : i.thread.number = t.number
    · simp [push, hi, Invocation.push]
    · rw [push, if_neg hi, numbers_cons, numbers_cons, ih]
      by_cases ht : t.number ∈ numbers r
      · simp [ht]
      · simp [ht, Ne.symm hi]

lemma mem_push (h : i ∈ r.push t f) : i ∈ r ∨ f ∈ i.frames := by
  induction r with
  | nil =>
    rw [push, List.mem_singleton] at h
    subst h
    exact Or.inr (List.mem_singleton_self f)
  | cons j r ih =>
    rw [push] at h
    split_ifs at h with hj
    · rcases List.mem_cons.mp h with rfl | h
      · exact Or.inr List.mem_cons_self
      · exact Or.inl (List.mem_cons_of_mem _ h)
    · rcases List.mem_cons.mp h with rfl | h
      · exact Or.inl List.mem_cons_self
      · exact (ih h).imp_left (List.mem_cons_of_mem _)

lemma thread_of_mem_push (h : i ∈ r.push t f) : i.thread = t ∨ ∃ j ∈ r, j.thread = i.thread := by
  induction r with
  | nil =>
    obtain rfl := List.mem_singleton.mp h
    exact .inl rfl
  | cons j r ih =>
    rw [push] at h
    split_ifs at h with hj
    · rcases List.mem_cons.mp h with rfl | h
      · exact .inr ⟨j, List.mem_cons_self, rfl⟩
      · exact .inr ⟨i, List.mem_cons_of_mem _ h, rfl⟩
    · rcases List.mem_cons.mp h with rfl | h
      · exact .inr ⟨i, List.mem_cons_self, rfl⟩
      · refine (ih h).imp_right ?_
        rintro ⟨k, hk, hthread⟩
        exact ⟨k, List.mem_cons_of_mem _ hk, hthread⟩

lemma Sound.push (h : r.Sound) (t : Thread) (f : Frame) : Sound (r.push t f) := by
  refine ⟨?_, fun i hi => ?_⟩
  · rw [numbers_push]
    split_ifs with ht
    · exact h.numbers_nodup
    · exact h.numbers_nodup.append (List.nodup_singleton _) (by simpa using ht)
  · rcases mem_push hi with hi | hf
    · exact h.frames_ne_nil i hi
    · exact List.ne_nil_of_mem hf

lemma stack_push_same : stack t.number (r.push t f) = f :: stack t.number r := by
  induction r with
  | nil => simp [push, stack]
  | cons i r ih =>
    by_cases hi : i.thread.number = t.number
    · simp [push, stack, hi, Invocation.push]
    · simp [push, stack, hi, ih]

lemma stack_push_of_ne (h : n ≠ t.number) : stack n (r.push t f) = stack n r := by
  induction r with
  | nil => simp [push, stack, Ne.symm h]
  | cons i r ih =>
    by_cases hi : i.thread.number = t.number
    · simp [push, stack, hi, Invocation.push, Ne.symm h]
    · simp [push, stack, hi, ih]

lemma frames_push : (r.push t f).frames.Perm (f :: r.frames) := by
  induction r with
  | nil => simp [push]
  | cons i r ih =>
    by_cases hi : i.thread.number = t.number
    · simp [push, hi, Invocation.push]
    · rw [push, if_neg hi, frames_cons, frames_cons]
      exact (ih.append_left i.frames).trans List.perm_middle

/-! ### Popping -/

lemma numbers_pop : (r.pop n s).numbers.Sublist r.numbers := by
  induction r with
  | nil => simp [pop]
  | cons i r ih =>
    rw [pop]
    split_ifs with hi
    · simp only
      split_ifs
      · exact List.sublist_cons_self _ _
      · simp [Invocation.pop]
    · exact ih.cons_cons _

lemma mem_pop (h : i ∈ r.pop n s) : i ∈ r ∨ i.frames ≠ [] := by
  induction r with
  | nil => simp [pop] at h
  | cons j r ih =>
    rw [pop] at h
    split_ifs at h with hj
    · simp only at h
      split_ifs at h with he
      · exact Or.inl (List.mem_cons_of_mem _ h)
      · rcases List.mem_cons.mp h with rfl | h
        · exact Or.inr (by simpa [Invocation.isEmpty] using he)
        · exact Or.inl (List.mem_cons_of_mem _ h)
    · rcases List.mem_cons.mp h with rfl | h
      · exact Or.inl List.mem_cons_self
      · exact (ih h).imp_left (List.mem_cons_of_mem _)

lemma thread_of_mem_pop (h : i ∈ r.pop n s) : ∃ j ∈ r, j.thread = i.thread := by
  induction r with
  | nil => simp [pop] at h
  | cons j r ih =>
    rw [pop] at h
    split_ifs at h with hj
    · simp only at h
      split_ifs at h
      · exact ⟨i, List.mem_cons_of_mem _ h, rfl⟩
      · rcases List.mem_cons.mp h with rfl | h
        · exact ⟨j, List.mem_cons_self, rfl⟩
        · exact ⟨i, List.mem_cons_of_mem _ h, rfl⟩
    · rcases List.mem_cons.mp h with rfl | h
      · exact ⟨i, List.mem_cons_self, rfl⟩
      · obtain ⟨k, hk, hthread⟩ := ih h
        exact ⟨k, List.mem_cons_of_mem _ hk, hthread⟩

lemma Sound.pop (h : r.Sound) (n s : Nat) : Sound (r.pop n s) := by
  refine ⟨h.numbers_nodup.sublist numbers_pop, fun i hi => ?_⟩
  rcases mem_pop hi with hi | hne
  · exact h.frames_ne_nil i hi
  · exact hne

lemma Sound.stack_pop_same (h : r.Sound) :
    stack n (r.pop n s) = (stack n r).eraseP (·.serial == s) := by
  induction r with
  | nil => simp [Registry.pop]
  | cons i r ih =>
    by_cases hi : i.thread.number = n
    · subst hi
      rw [Registry.pop, if_pos rfl, stack, if_pos rfl]
      simp only
      split_ifs with hj
      -- the entry is gone, and the thread has no other
      · rw [stack_eq_nil h.not_mem]
        exact (List.isEmpty_iff.mp hj).symm
      · exact if_pos rfl
    · simp [Registry.pop, stack, hi, ih h.tail]

lemma stack_pop_of_ne (h : m ≠ n) : stack m (r.pop n s) = stack m r := by
  induction r with
  | nil => simp [pop]
  | cons i r ih =>
    by_cases hi : i.thread.number = n
    · have hm : i.thread.number ≠ m := fun he => h (he.symm.trans hi)
      simp only [pop, hi, if_true]
      split_ifs
      · simp [stack, hm]
      · simp [stack, hm, Invocation.pop]
    · simp [pop, stack, hi, ih]

lemma frames_pop_sublist : (r.pop n s).frames.Sublist r.frames := by
  induction r with
  | nil => simp [pop]
  | cons i r ih =>
    rw [pop]
    split_ifs with hi
    · simp only
      split_ifs
      · exact List.sublist_append_right _ _
      · exact List.eraseP_sublist.append (List.Sublist.refl _)
    · exact (List.Sublist.refl _).append ih

/-- What a pop takes out when the frame is on top. -/
lemma frames_pop (h : stack n r = f :: fs) : r.frames.Perm (f :: (r.pop n f.serial).frames) := by
  induction r with
  | nil => simp at h
  | cons i r ih =>
    by_cases hi : i.thread.number = n
    · have hf : i.frames = f :: fs := by simpa [stack, hi] using h
      cases fs <;> simp [pop, hi, Invocation.pop, Invocation.isEmpty, hf]
    · rw [stack, if_neg hi] at h
      rw [pop, if_neg hi, frames_cons, frames_cons]
      exact ((ih h).append_left i.frames).trans List.perm_middle

end CallWatch.Registry
