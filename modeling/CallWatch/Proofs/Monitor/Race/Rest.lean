import CallWatch.Demo
import CallWatch.Proofs.Monitor.Race.Safety

/-!
A monitor at rest after a race, and races in which nobody gets in another's way.

Where nobody is in the middle of anything, the registry and the counters are those of the calls
that are registered in the current epoch. Operations that are taken whole, one after the other,
do what the monitor does.
-/

namespace CallWatch.Race

open Registry

/-! ### At rest -/

namespace State

variable {s : State}

lemma Consistent.started_eq (h : s.Consistent) (hq : s.Quiet) :
    s.memory.isStarted = s.journal.started := by
  have hlock := h.lock
  rw [hq.free] at hlock
  exact hlock.1

/-- At rest the epoch is that of the start that is in effect, if there is one. -/
lemma Consistent.activation_eq (h : s.Consistent) (hq : s.Quiet) :
    s.journal.activation = activation s.memory.epoch := by
  have hlock := h.lock
  rw [hq.free] at hlock
  obtain ⟨-, he⟩ := hlock
  unfold Journal.activation activation
  rcases hs : s.journal.started with _ | _
  · rw [hs, Bool.toNat_false] at he
    rw [if_neg (by simp), if_neg (by omega)]
  · rw [hs, Bool.toNat_true] at he
    rw [if_pos rfl, if_pos (by omega)]
    congr 1
    omega

lemma Consistent.counts_eq (h : s.Consistent) (hq : s.Quiet) :
    s.journal.counts = countsIn s.memory.epoch := by
  funext v
  rw [Journal.counts, countsIn, h.activation_eq hq]

lemma Consistent.matched (h : s.Consistent) (hq : s.Quiet) (n : Nat) :
    Matched n s.memory.epoch (s.unfinished n) (Visit.unfinished n s.journal.visits)
      (stack n s.memory.registry) :=
  (h.fits_of (hq.idle n)).frames (hq.free ▸ trivial)

lemma Consistent.shows (h : s.Consistent) (hq : s.Quiet) (n : Nat) :
    List.Forall₂ Frame.Shows (stack n s.memory.registry) (s.journal.live n) := by
  rw [Journal.live, h.counts_eq hq]
  exact (h.matched hq n).shows fun _ _ hk => countsIn_iff hk

end State

/-- **Nothing leaks in a race.** After every run of steps, where nobody is in the middle of a
registration, a completion, a start or a stop: a call holds a ticket exactly if it was
registered; the registry has the frames of the unfinished calls that count, innermost first and
each once, and of no others, so it is empty while the monitor is stopped; the counters say how
many calls count and how many of those have failed; and of the starts and stops, in the order of
their answers, exactly those had an effect that had one to make. -/
theorem race_exact (as : List Action) (hq : (State.run .init as).Quiet) :
    let s := State.run .init as
    let m := s.memory.monitor
    let j := s.journal
    (∀ n, List.Forall₂ (Issued n) (s.unfinished n) (Visit.unfinished n j.visits)) ∧
      (∀ n, m.registry.tracks n = true ↔ j.live n ≠ []) ∧
      m.registry.numbers.Nodup ∧
      (∀ i ∈ m.registry,
        i.frames ≠ [] ∧ List.Forall₂ Frame.Shows i.frames (j.live i.thread.number)) ∧
      (m.registry.frames.map Frame.serial).Nodup ∧
      (m.isStarted = false → m.registry = [] ∧ m.invocations = 0 ∧ m.errors = 0) ∧
      m.invocations = j.visits.countP j.counts ∧
      m.errors = j.visits.countP (fun v => j.counts v && v.ended == some true) ∧
      m.isStarted = j.started ∧ j.started = startedAfter s.answers ∧ Truthful s.answers := by
  intro s m j
  have h : s.Consistent := State.consistent_run as
  have hsound : m.registry.Sound := h.sound
  have hshows : ∀ n, List.Forall₂ Frame.Shows (stack n m.registry) (j.live n) := h.shows hq
  have hstarted : m.isStarted = j.started := h.started_eq hq
  have hframes : ∀ i ∈ m.registry,
      i.frames ≠ [] ∧ List.Forall₂ Frame.Shows i.frames (j.live i.thread.number) := by
    intro i hi
    refine ⟨hsound.frames_ne_nil i hi, ?_⟩
    rw [← hsound.stack_of_mem hi]
    exact hshows i.thread.number
  have hinvocations : m.invocations = j.visits.countP j.counts := by
    rw [h.counts_eq hq]
    exact h.invocations
  have herrors : m.errors = j.visits.countP fun v => j.counts v && v.ended == some true := by
    rw [h.counts_eq hq]
    exact h.errors
  refine ⟨fun n => (h.fits n).issued, fun n => ?_, hsound.numbers_nodup, hframes,
    h.numbered.serial_nodup, fun hs => ⟨?_, ?_, ?_⟩, hinvocations, herrors, hstarted, h.started,
    h.answers⟩
  · rw [hsound.tracks_iff_stack, ← List.length_pos_iff, ← List.length_pos_iff,
      (hshows n).length_eq]
  · have hcount (v : Visit) : j.counts v = false :=
      Journal.counts_of_stopped (hstarted.symm.trans hs)
    refine List.eq_nil_iff_forall_not_mem.mpr fun i hi => ?_
    obtain ⟨hne, hall⟩ := hframes i hi
    have hlive : j.live i.thread.number = [] := by
      rw [Journal.live, List.filter_eq_nil_iff]
      intro v _
      simp [hcount v]
    rw [hlive] at hall
    exact hne (List.forall₂_nil_right_iff.mp hall)
  · have hzero := Journal.countP_of_none fun v (_ : v ∈ j.visits) =>
      Journal.counts_of_stopped (hstarted.symm.trans hs)
    exact hinvocations.trans (by simpa using hzero fun _ => true)
  · have hzero := Journal.countP_of_none fun v (_ : v ∈ j.visits) =>
      Journal.counts_of_stopped (hstarted.symm.trans hs)
    exact herrors.trans (hzero _)

/-- A call finds the monitor started and pushes its frame when a stop has already cleared the
entry of its thread; the frame outlives the stop, and the thread takes it out again. -/
theorem race_exact_late_push :
    let a : Arrival := ⟨Demo.thread 0, Demo.service 1, .empty, .ok (Demo.state 0), .epoch⟩
    let during := .seize (.start .epoch) :: List.replicate 5 .proceed ++ [.arrive a, .advance 1] ++
      .seize .stop :: List.replicate 4 .proceed ++ [.clear 1, .advance 1, .proceed]
    let s := State.run .init during
    let s' := State.run .init (during ++ [.advance 1, .advance 1])
    s.lock = .free ∧ s.memory.isStarted = false ∧ s.memory.registry.numbers = [1] ∧ s'.Quiet ∧
      s'.unfinished 1 = [none] ∧ s'.memory.monitor.registry = [] := by
  intro a during s s'
  have hq : s'.Quiet := by
    refine ⟨fun n => ?_, rfl⟩
    rcases n with _ | _ | n <;> rfl
  have hstopped := (race_exact _ hq).2.2.2.2.2.1 rfl
  exact ⟨rfl, rfl, rfl, hq, rfl, hstopped.1⟩

end CallWatch.Race
