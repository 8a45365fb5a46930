import CallWatch.Demo
import CallWatch.Monitor.Invocation
import Mathlib.Data.List.Induction
import Mathlib.Data.List.Nodup

/-!
Invocations under pops in any order.

Calls end from the inside out, but a caller that unwinds may skip a pop, so a frame may be popped
from anywhere in the stack. A frame is known by its serial number alone: frames that look alike are
told apart, and popping a frame that is not there changes nothing. What is on the stack can be told
from the moves themselves, without a stack: a frame is there if it was pushed and no pop of it came
later.
-/

namespace CallWatch

namespace Invocation

/-! ### Moves -/

/-- What is done to an invocation. -/
inductive Move where
  | push (f : Frame)
  | pop (serial : Nat)

namespace Move

def apply (i : Invocation) : Move → Invocation
  | push f => i.push f
  | pop s => (i.pop s).2

def pushed? : Move → Option Frame
  | push f => some f
  | pop _ => none

def popped? : Move → Option Nat
  | push _ => none
  | pop s => some s

end Move

/-- The invocation of a thread after some moves. -/
def after (t : Thread) (ms : List Move) : Invocation := ms.foldl Move.apply ⟨t, []⟩

/-- The frames that are pushed, in the order of their pushes. -/
def pushed (ms : List Move) : List Frame := ms.filterMap Move.pushed?

/-- The serial numbers that are popped. -/
def popped (ms : List Move) : List Nat := ms.filterMap Move.popped?

/-- The frames that are pushed and not popped later, in the order of their pushes. -/
def remaining : List Move → List Frame
  | [] => []
  | .push f :: later =>
    if f.serial ∈ popped later then remaining later else f :: remaining later
  | .pop _ :: later => remaining later

/-- The frame was pushed, and no pop of it came later. -/
def Stays (f : Frame) (ms : List Move) : Prop :=
  ∃ earlier later, ms = earlier ++ .push f :: later ∧ f.serial ∉ popped later

/-- No two pushes are of one frame. -/
def Distinct (ms : List Move) : Prop := ((pushed ms).map Frame.serial).Nodup

instance (ms : List Move) : Decidable (Distinct ms) := List.nodupDecidable _

/-- What comes of popping a frame: it is taken out and all others stay, or it is not there and
nothing happens. -/
inductive Pops (i : Invocation) (s : Nat) : Bool × Invocation → Prop
  | taken {inner outer : List Frame} {f : Frame} (hf : f.serial = s)
    (h : i.frames = inner ++ f :: outer) (hothers : ∀ g ∈ inner ++ outer, g.serial ≠ s) :
    Pops i s (true, { i with frames := inner ++ outer })
  | absent (h : ∀ f ∈ i.frames, f.serial ≠ s) : Pops i s (false, i)

/-- An invocation is as the moves tell it. -/
structure Agrees (i : Invocation) (ms : List Move) : Prop where
  /-- The innermost frame is the one that was pushed last. -/
  frames : i.frames = (remaining ms).reverse
  mem_iff : ∀ f, f ∈ i.frames ↔ Stays f ms
  pops : ∀ s, i.Pops s (i.pop s)
  pop_iff : ∀ s, (i.pop s).1 = true ↔ ∃ f ∈ remaining ms, f.serial = s
  size : i.size = (remaining ms).length
  isEmpty_iff : i.isEmpty = true ↔ remaining ms = []
  /-- Of the frames that remain, the one that was pushed first is the outermost call. -/
  startedAt : i.startedAt = (remaining ms).head?.map Frame.startedAt
  report_iff : ∀ (r : Renderer) (now : Instant) (kept : Renderings),
    (i.report r now kept).1.isSome ↔ remaining ms ≠ []

variable {i : Invocation} {ms : List Move} {f : Frame} {s : Nat}

/-! ### What remains -/

lemma popped_append (ms later : List Move) : popped (ms ++ later) = popped ms ++ popped later :=
  List.filterMap_append

lemma remaining_push (ms : List Move) (f : Frame) :
    remaining (ms ++ [.push f]) = remaining ms ++ [f] := by
  induction ms with
  | nil => rfl
  | cons m ms ih =>
    cases m with
    | pop s => exact ih
    | push g =>
      have hpopped : popped (ms ++ [.push f]) = popped ms := by
        rw [popped_append]
        exact List.append_nil _
      rw [List.cons_append, remaining, remaining, hpopped, ih]
      split <;> rfl

lemma remaining_pop (ms : List Move) (s : Nat) :
    remaining (ms ++ [.pop s]) = (remaining ms).filter fun f => f.serial ≠ s := by
  induction ms with
  | nil => rfl
  | cons m ms ih =>
    cases m with
    | pop s' => exact ih
    | push g =>
      have hpopped : popped (ms ++ [.pop s]) = popped ms ++ [s] := popped_append ms [.pop s]
      rw [List.cons_append, remaining, remaining, hpopped, ih]
      by_cases hlater : g.serial ∈ popped ms
      · rw [if_pos (List.mem_append_left _ hlater), if_pos hlater]
      · by_cases hs : g.serial = s
        · subst hs
          simp [hlater]
        · simp [hlater, hs]

lemma remaining_sublist (ms : List Move) : (remaining ms).Sublist (pushed ms) := by
  induction ms with
  | nil => exact .slnil
  | cons m ms ih =>
    cases m with
    | pop s => exact ih
    | push g =>
      rw [remaining]
      split
      · exact ih.cons g
      · exact ih.cons_cons g

lemma stays_cons_iff {m : Move} :
    Stays f (m :: ms) ↔ (m = .push f ∧ f.serial ∉ popped ms) ∨ Stays f ms := by
  constructor
  · rintro ⟨_ | ⟨m', earlier⟩, later, hms, hlater⟩
    · obtain ⟨rfl, rfl⟩ := List.cons.inj hms
      exact .inl ⟨rfl, hlater⟩
    · obtain ⟨-, rfl⟩ := List.cons.inj hms
      exact .inr ⟨earlier, later, rfl, hlater⟩
  · rintro (⟨rfl, hlater⟩ | ⟨earlier, later, rfl, hlater⟩)
    · exact ⟨[], ms, rfl, hlater⟩
    · exact ⟨m :: earlier, later, rfl, hlater⟩

lemma mem_remaining_iff : f ∈ remaining ms ↔ Stays f ms := by
  induction ms with
  | nil => simp [remaining, Stays]
  | cons m ms ih =>
    rw [stays_cons_iff, ← ih]
    cases m with
    | pop s => simp [remaining]
    | push g =>
      rw [remaining, Move.push.injEq]
      split
      · next hlater =>
        refine (or_iff_right ?_).symm
        rintro ⟨rfl, hnot⟩
        exact hnot hlater
      · next hlater =>
        rw [List.mem_cons]
        refine or_congr_left ⟨?_, fun h => h.1.symm⟩
        rintro rfl
        exact ⟨rfl, hlater⟩

lemma Distinct.remaining (h : Distinct ms) : ((remaining ms).map Frame.serial).Nodup :=
  h.sublist ((remaining_sublist ms).map _)

lemma Distinct.of_concat {m : Move} (h : Distinct (ms ++ [m])) : Distinct ms := by
  rw [Distinct, pushed, List.filterMap_append, List.map_append] at h
  exact h.of_append_left

/-! ### The stack -/

lemma pops_pop (h : (i.frames.map Frame.serial).Nodup) (s : Nat) : i.Pops s (i.pop s) := by
  rw [pop]
  by_cases hs : ∃ f ∈ i.frames, f.serial = s
  · obtain ⟨f, hf, rfl⟩ := hs
    obtain ⟨inner, outer, hframes⟩ := List.append_of_mem hf
    have hothers : ∀ g ∈ inner ++ outer, g.serial ≠ f.serial := by
      intro g hg hsame
      rw [hframes, (List.perm_middle.map _).nodup_iff, List.map_cons, List.nodup_cons] at h
      exact h.1 (hsame ▸ List.mem_map_of_mem hg)
    have hinner : ∀ g ∈ inner, ¬(g.serial == f.serial) = true := by
      intro g hg
      simpa using hothers g (List.mem_append_left _ hg)
    have hany : i.frames.any (·.serial == f.serial) = true :=
      List.any_eq_true.mpr ⟨f, hf, beq_self_eq_true _⟩
    have herase : i.frames.eraseP (·.serial == f.serial) = inner ++ outer := by
      rw [hframes, List.eraseP_append_right _ hinner, List.eraseP_cons_of_pos (by simp)]
    rw [hany, herase]
    exact .taken rfl hframes hothers
  · have habsent : ∀ f ∈ i.frames, f.serial ≠ s := fun f hf hfs => hs ⟨f, hf, hfs⟩
    have hany : i.frames.any (·.serial == s) = false := by simpa using habsent
    have herase : i.frames.eraseP (·.serial == s) = i.frames :=
      List.eraseP_of_forall_not (by simpa using habsent)
    rw [hany, herase]
    exact .absent habsent

lemma Pops.frames_eq {p : Bool × Invocation} (h : i.Pops s p) :
    p.2.frames = i.frames.filter fun f => f.serial ≠ s := by
  cases h with
  | taken hf h hothers =>
    rw [h, List.filter_append, List.filter_cons_of_neg (by simp [hf]), ← List.filter_append]
    exact (List.filter_eq_self.mpr fun g hg => by simpa using hothers g hg).symm
  | absent h => exact (List.filter_eq_self.mpr fun g hg => by simpa using h g hg).symm

lemma Pops.fst_iff {p : Bool × Invocation} (h : i.Pops s p) :
    p.1 = true ↔ ∃ f ∈ i.frames, f.serial = s := by
  cases h with
  | taken hf h => exact iff_of_true rfl ⟨_, h ▸ List.mem_append_right _ List.mem_cons_self, hf⟩
  | absent h => exact iff_of_false nofun fun ⟨f, hf, hs⟩ => h f hf hs

lemma after_concat (t : Thread) (ms : List Move) (m : Move) :
    after t (ms ++ [m]) = m.apply (after t ms) := by
  rw [after, List.foldl_append]
  rfl

lemma nodup_of_frames_eq (hi : i.frames = (remaining ms).reverse) (h : Distinct ms) :
    (i.frames.map Frame.serial).Nodup := by
  rw [hi, List.map_reverse, List.nodup_reverse]
  exact h.remaining

/-- A push adds a frame to what remains and a pop takes one out, on the stack as in the moves. -/
lemma frames_after (t : Thread) (h : Distinct ms) :
    (after t ms).frames = (remaining ms).reverse := by
  induction ms using List.reverseRecOn with
  | nil => rfl
  | append_singleton ms m ih =>
    have hframes := ih h.of_concat
    rw [after_concat]
    cases m with
    | push f =>
      rw [remaining_push, List.reverse_append, ← hframes]
      rfl
    | pop s =>
      rw [remaining_pop, ← List.filter_reverse, ← hframes]
      exact (pops_pop (nodup_of_frames_eq hframes h.of_concat) s).frames_eq

lemma mem_frames_after (t : Thread) (h : Distinct ms) :
    f ∈ (after t ms).frames ↔ f ∈ remaining ms := by
  rw [frames_after t h, List.mem_reverse]

lemma pops_after (t : Thread) (h : Distinct ms) (s : Nat) :
    (after t ms).Pops s ((after t ms).pop s) :=
  pops_pop (nodup_of_frames_eq (frames_after t h) h) s

lemma isSome_report_iff (r : Renderer) (now : Instant) (kept : Renderings) :
    (i.report r now kept).1.isSome ↔ i.frames ≠ [] := by
  rw [report, startedAt, ← List.getLast?_isSome]
  cases i.frames.getLast? with
  | none => exact iff_of_false nofun nofun
  | some f => exact iff_of_true rfl rfl

/-- **The stack of a thread under any moves.** Whatever is pushed and popped, the frames are those
that were pushed and not popped since, the last one innermost. A pop finds a frame exactly if it is
among them, takes out that one and leaves the others in their order; all that is told of the stack
is told of these frames. -/
theorem stack_exact (t : Thread) (ms : List Move) (h : Distinct ms) :
    (after t ms).Agrees ms where
  frames := frames_after t h
  mem_iff _ := (mem_frames_after t h).trans mem_remaining_iff
  pops := pops_after t h
  pop_iff s := by simp only [(pops_after t h s).fst_iff, mem_frames_after t h]
  size := by rw [size, frames_after t h, List.length_reverse]
  isEmpty_iff := by rw [isEmpty, frames_after t h, List.isEmpty_reverse, List.isEmpty_iff]
  startedAt := by rw [startedAt, frames_after t h, List.getLast?_reverse]
  report_iff r now kept := by
    rw [isSome_report_iff, frames_after t h, Ne, List.reverse_eq_nil_iff]

/-- Three frames that look alike; one is popped before it is pushed, from between the others, and
once more. -/
theorem stack_exact_lookalikes :
    let f (serial : Nat) : Frame := ⟨serial, Demo.service 1, .empty, Demo.state 0, .epoch⟩
    let ms := [.pop 1, .push (f 0), .push (f 1), .push (f 2), .pop 1, .pop 1]
    let i := after (Demo.thread 0) ms
    Distinct ms ∧ i.Agrees ms ∧ i.frames = [f 2, f 0] ∧ (i.pop 1).1 = false ∧
      (i.pop 0).1 = true := by
  intro f ms i
  have hdistinct : Distinct ms := by decide
  exact ⟨hdistinct, stack_exact _ ms hdistinct, rfl, rfl, rfl⟩

end Invocation

end CallWatch
