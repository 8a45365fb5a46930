import CallWatch.Monitor.Basic
import Mathlib.Tactic.Lemma
import Mathlib.Tactic.Common

/-!
Registries whose serial numbers are a fixed distance apart.

Serial numbers only tell frames apart. Raising all of them by the same amount commutes with
whatever a monitor does to its registry, and no report shows it, as long as the HTML is kept
under the raised numbers too.
-/

namespace CallWatch

def Frame.renumber (d : Nat) (f : Frame) : Frame := { f with serial := f.serial + d }

def Invocation.renumber (d : Nat) (i : Invocation) : Invocation :=
  { i with frames := i.frames.map (Frame.renumber d) }

def Registry.renumber (d : Nat) (r : Registry) : Registry := r.map (Invocation.renumber d)

/-- A ticket with its serial number raised by `d` and its epoch by `e`. -/
def Ticket.renumber (d e : Nat) (k : Ticket) : Ticket := ⟨k.thread, k.epoch + e, k.serial + d⟩

/-- What `kept'` has under a number, `kept` has under the one raised by `d`. -/
def Renderings.Shifted (d : Nat) (kept kept' : Renderings) : Prop :=
  ∀ s, kept.lookup (s + d) = kept'.lookup s

variable {d n s : Nat} {f : Frame} {i : Invocation} {reg : Registry} {t : Thread}
  {kept kept' : Renderings}

@[simp] lemma Invocation.renumber_thread : (i.renumber d).thread = i.thread := rfl

@[simp] lemma Invocation.renumber_frames :
    (i.renumber d).frames = i.frames.map (Frame.renumber d) := rfl

@[simp] lemma Invocation.isEmpty_renumber : (i.renumber d).isEmpty = i.isEmpty := by
  simp [Invocation.isEmpty]

/-! ### The registry -/

lemma Invocation.push_renumber : (i.renumber d).push (f.renumber d) = (i.push f).renumber d := rfl

lemma Invocation.pop_renumber : ((i.renumber d).pop (s + d)).2 = (i.pop s).2.renumber d := by
  have hp : (fun g : Frame => g.serial == s + d) ∘ Frame.renumber d = fun g => g.serial == s := by
    ext g
    simp [Frame.renumber]
  simp only [pop, renumber, List.eraseP_map, hp]

namespace Registry

@[simp] lemma renumber_nil : renumber d [] = [] := rfl

@[simp] lemma renumber_cons : renumber d (i :: reg) = i.renumber d :: renumber d reg := rfl

lemma push_renumber : (reg.renumber d).push t (f.renumber d) = (reg.push t f).renumber d := by
  induction reg with
  | nil => rfl
  | cons i reg ih =>
    by_cases hi : i.thread.number = t.number
    · simp [push, hi, Invocation.push_renumber]
    · simp [push, hi, ih]

lemma pop_renumber : (reg.renumber d).pop n (s + d) = (reg.pop n s).renumber d := by
  induction reg with
  | nil => rfl
  | cons i reg ih =>
    by_cases hi : i.thread.number = n
    · simp only [renumber_cons, pop, Invocation.renumber_thread, hi, if_true,
        Invocation.pop_renumber, Invocation.isEmpty_renumber]
      split_ifs <;> rfl
    · simp [pop, hi, ih]

lemma filter_renumber : (reg.renumber d).filter (fun i => !i.isEmpty) =
    renumber d (reg.filter fun i => !i.isEmpty) := by
  have hp : (fun i : Invocation => !i.isEmpty) ∘ Invocation.renumber d = fun i => !i.isEmpty := by
    ext i
    simp
  rw [renumber, List.filter_map, hp]
  rfl

end Registry

/-! ### Reports -/

lemma Renderings.Shifted.cons (h : Shifted d kept kept') (s : Nat) (html : Option String) :
    Shifted d ((s + d, html) :: kept) ((s, html) :: kept') := by
  intro u
  by_cases hu : u = s
  · subst hu
    simp
  · have hd : u + d ≠ s + d := by omega
    rw [List.lookup_cons, List.lookup_cons, beq_false_of_ne hd, beq_false_of_ne hu]
    exact h u

lemma Renderings.Shifted.read (h : Shifted d kept kept') (r : Renderer) (f : Frame) :
    (kept.read r (f.renumber d)).1 = (kept'.read r f).1 ∧
      Shifted d (kept.read r (f.renumber d)).2 (kept'.read r f).2 := by
  have hl : kept.lookup (f.renumber d).serial = kept'.lookup f.serial := h f.serial
  unfold Renderings.read
  rw [hl]
  rcases kept'.lookup f.serial with _ | html
  · exact ⟨rfl, h.cons f.serial _⟩
  · exact ⟨rfl, h⟩

lemma Frame.reports_renumber (r : Renderer) (now : Instant) (fs : List Frame)
    (h : kept.Shifted d kept') :
    (reports r now (fs.map (renumber d)) kept).1 = (reports r now fs kept').1 ∧
      (reports r now (fs.map (renumber d)) kept).2.Shifted d (reports r now fs kept').2 := by
  induction fs generalizing kept kept' with
  | nil => exact ⟨rfl, h⟩
  | cons f fs ih =>
    obtain ⟨hhtml, hread⟩ := h.read r f
    obtain ⟨hrest, hkept⟩ := ih hread
    refine ⟨?_, hkept⟩
    simp only [List.map_cons, reports, hhtml, hrest]
    rfl

lemma Invocation.startedAt_renumber : (i.renumber d).startedAt = i.startedAt := by
  simp only [startedAt, renumber_frames, List.getLast?_map, Option.map_map]
  rfl

lemma Invocation.report_renumber (r : Renderer) (now : Instant) (i : Invocation)
    (h : kept.Shifted d kept') :
    ((i.renumber d).report r now kept).1 = (i.report r now kept').1 ∧
      ((i.renumber d).report r now kept).2.Shifted d (i.report r now kept').2 := by
  obtain ⟨hframes, hkept⟩ := Frame.reports_renumber r now i.frames h
  unfold report
  rw [startedAt_renumber]
  rcases i.startedAt with _ | start
  · exact ⟨rfl, h⟩
  · simp only [renumber_thread, renumber_frames, hframes]
    exact ⟨trivial, hkept⟩

lemma Invocation.reports_renumber (r : Renderer) (now : Instant) (reg : Registry)
    (h : kept.Shifted d kept') :
    (reports r now (reg.renumber d) kept).1 = (reports r now reg kept').1 ∧
      (reports r now (reg.renumber d) kept).2.Shifted d (reports r now reg kept').2 := by
  induction reg generalizing kept kept' with
  | nil => exact ⟨rfl, h⟩
  | cons i reg ih =>
    obtain ⟨hfirst, hreport⟩ := report_renumber r now i h
    obtain ⟨hrest, hkept⟩ := ih hreport
    refine ⟨?_, hkept⟩
    simp only [Registry.renumber_cons, reports, hfirst, hrest]

end CallWatch
