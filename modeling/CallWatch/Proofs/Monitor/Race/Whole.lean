import CallWatch.Proofs.Monitor.Race.Rest

/-!
Races in which nobody gets in another's way.

An operation whose steps are taken one after the other, from rest to rest, does what the monitor
does in one, and the journal has the same to say of it. So every run of a watch is one of these
races.
-/

namespace CallWatch.Race

open Registry

/-- All steps of an operation. Those that a case does not take change nothing. -/
def whole (r : Registry) : Event → List Action
  | .enter t service pipeline state now =>
    .arrive ⟨t, service, pipeline, state, now⟩ :: List.replicate 4 (.advance t.number)
  | .leave n failed => .leave n failed :: List.replicate 2 (.advance n)
  | .start now => .seize (.start now) :: List.replicate 3 .proceed ++
      r.numbers.map .clear ++ List.replicate 2 .proceed
  | .stop => .seize .stop :: List.replicate 4 .proceed ++
      r.numbers.map .clear ++ List.replicate 1 .proceed
  | .report _ => []

namespace State

def watch (s : State) (r : Renderer) : Watch := ⟨s.memory.monitor, r, s.unfinished⟩

/-- From rest to rest, `s'` is what an event makes of `s`. -/
structure Takes (s : State) (r : Renderer) (e : Event) (s' : State) : Prop where
  quiet : s'.Quiet
  watch : s'.watch r = (s.watch r).step e
  journal : s'.journal = s.journal.note e

variable {s : State} {r : Renderer}

/-! ### Calls -/

lemma takes_enter (h : s.Consistent) (hq : s.Quiet) (t : Thread) (service : ServiceDescriptor)
    (pipeline : Pipeline) (state : Except Envelope InvokeState) (now : Instant) :
    s.Takes r (.enter t service pipeline state now)
      (s.run (whole s.memory.registry (.enter t service pipeline state now))) := by
  have hidle := hq.idle t.number
  have hact := h.activation_eq hq
  simp only [whole, run, List.replicate, List.foldl, step, arrive, hidle]
  rcases hs : s.memory.isStarted with _ | _
  · have hreg : s.memory.monitor.register t now service pipeline state = (none, s.memory.monitor) :=
      Monitor.register_of_stopped hs
    have hnone : s.journal.activation = none := by
      rw [Journal.activation, ← h.started_eq hq, hs]
      rfl
    simp only [advance, goto, hs, entered, setAt_same, setAt_setAt, setAt_self hidle, hidle,
      Bool.false_eq_true, if_false]
    refine ⟨⟨hq.idle, hq.free⟩, ?_, ?_⟩
    · simp only [Watch.step, Watch.react, Watch.enter, watch, hreg]
    · simp only [Journal.note, Journal.visit, hnone, Arrival.visit]
  · rcases state with e | st
    · have hreg : s.memory.monitor.register t now service pipeline (.error e) =
          (none, s.memory.monitor) := Monitor.register_error
      simp only [advance, goto, hs, entered, setAt_same, setAt_setAt, setAt_self hidle, hidle,
        if_true]
      refine ⟨⟨hq.idle, hq.free⟩, ?_, ?_⟩
      · simp only [Watch.step, Watch.react, Watch.enter, watch, hreg]
      · simp only [Journal.note, Journal.visit, hact, Arrival.visit]
    · have hreg : s.memory.monitor.register t now service pipeline (.ok st) = _ :=
        Monitor.register_ok hs
      simp only [advance, goto, hs, entered, setAt_same, setAt_setAt, setAt_self hidle, if_true]
      refine ⟨⟨hq.idle, hq.free⟩, ?_, ?_⟩
      · simp only [Watch.step, Watch.react, Watch.enter, watch, hreg]
        simp [Memory.monitor, Memory.counted, Arrival.frame]
      · simp only [Journal.note, Journal.visit, hact, Arrival.visit]

/-- A call that ends without a ticket, or with one of an epoch that is over. -/
lemma takes_left {n : Nat} {failed : Bool} {k : Option Ticket} {ks : List (Option Ticket)}
    (hq : s.Quiet) (hu : s.unfinished n = k :: ks)
    (hk : s.memory.monitor.complete k failed = s.memory.monitor) :
    s.Takes r (.leave n failed) ((s.left n failed).run (List.replicate 2 (.advance n))) := by
  have hidle := hq.idle n
  simp only [run, List.replicate, List.foldl, step, left, goto, setAt_self hidle, advance, hidle]
  refine ⟨⟨hq.idle, hq.free⟩, ?_, rfl⟩
  simp only [Watch.step, Watch.react, Watch.leave, watch, hu, hk, List.tail_cons]

lemma takes_leave (h : s.Consistent) (hq : s.Quiet) (n : Nat) (failed : Bool) :
    s.Takes r (.leave n failed) (s.run (whole s.memory.registry (.leave n failed))) := by
  have hidle := hq.idle n
  rw [whole, run_cons, step, leave, hidle]
  rcases hu : s.unfinished n with _ | ⟨k, ks⟩
  · have hv : Visit.unfinished n s.journal.visits = [] := by
      have hi := (h.fits n).issued
      rw [hu] at hi
      exact List.forall₂_nil_left_iff.mp hi
    simp only [run, List.replicate, List.foldl, step, advance, hidle]
    refine ⟨hq, ?_, ?_⟩
    · simp only [Watch.step, Watch.react, Watch.leave, watch, hu]
    · simp only [Journal.note, Visit.finish_of_nil hv]
  rcases k with _ | k
  · exact takes_left hq hu Monitor.complete_none
  simp only
  split_ifs with he
  · have hc : s.memory.monitor.complete (some k) failed = _ := Monitor.complete_of_eq he
    cases failed with
    | false =>
      simp only [run, List.replicate, List.foldl, step, goto, setAt_same, setAt_setAt, advance,
        left, setAt_self hidle, hidle, Bool.false_eq_true, if_false]
      refine ⟨⟨hq.idle, hq.free⟩, ?_, rfl⟩
      simp only [Watch.step, Watch.react, Watch.leave, watch, hu, hc, List.tail_cons]
      rfl
    | true =>
      simp only [run, List.replicate, List.foldl, step, goto, setAt_same, setAt_setAt, advance,
        left, setAt_self hidle, if_true]
      refine ⟨⟨hq.idle, hq.free⟩, ?_, rfl⟩
      simp only [Watch.step, Watch.react, Watch.leave, watch, hu, hc, List.tail_cons]
      simp [Memory.monitor, Memory.failed, he]
  · exact takes_left hq hu (Monitor.complete_of_ne he)

/-! ### Starts and stops -/

/-- Where nobody is clearing, nothing is cleared. -/
lemma run_clear_of_free (h : s.lock = .free) (ns : List Nat) : s.run (ns.map .clear) = s := by
  induction ns with
  | nil => rfl
  | cons n ns ih => simpa [step, clear, h] using ih

/-- Every entry has its turn, by induction on the registry. -/
lemma run_clear {c : Change} {g : Registry} (hg : g.numbers.Nodup) {visited : List Nat}
    (hv : ∀ n ∈ g.numbers, n ∉ visited) : ∃ visited',
      run { s with memory := { s.memory with registry := g }, lock := .sweep c visited }
        (g.numbers.map .clear) =
      { s with memory := { s.memory with registry := [] }, lock := .sweep c visited' } := by
  induction g generalizing visited with
  | nil => exact ⟨visited, rfl⟩
  | cons i g ih =>
    obtain ⟨hi, hg⟩ := List.nodup_cons.mp hg
    obtain ⟨hvi, hv⟩ := List.forall_mem_cons.mp hv
    have hwithout : Registry.without i.thread.number (i :: g) = g := by
      rw [Registry.without, List.filter_cons_of_neg (by simp), List.filter_eq_self]
      intro j hj
      rw [bne_iff_ne]
      intro he
      exact hi (List.mem_map.mpr ⟨j, hj, he⟩)
    have hrest : ∀ n ∈ numbers g, n ∉ i.thread.number :: visited := by
      intro n hn hm
      rcases List.mem_cons.mp hm with rfl | hm
      · exact hi hn
      · exact hv n hn hm
    obtain ⟨visited', hrun⟩ := ih hg hrest
    refine ⟨visited', ?_⟩
    rw [numbers_cons, List.map_cons, run_cons, step, clear]
    simp only [if_neg hvi, hwithout]
    exact hrun

lemma Consistent.run_sweep (h : s.Consistent) {c : Change} {m : Memory}
    (hm : m.registry = s.memory.registry) : ∃ visited,
      run { s with memory := m, lock := .sweep c [] } (s.memory.registry.numbers.map .clear) =
        { s with memory := { m with registry := [] }, lock := .sweep c visited } := by
  have hnew : ∀ n ∈ s.memory.registry.numbers, n ∉ ([] : List Nat) := fun _ _ => List.not_mem_nil
  have hrun := run_clear (s := { s with memory := m }) (c := c) h.sound.numbers_nodup hnew
  rwa [← hm] at hrun ⊢

lemma takes_start (h : s.Consistent) (hq : s.Quiet) (now : Instant) :
    s.Takes r (.start now) (s.run (whole s.memory.registry (.start now))) := by
  rw [whole, run_append, run_append, run_cons, step, seize, hq.free]
  rcases hs : s.memory.isStarted with _ | _
  · have hmonitor : s.memory.monitor.start now = _ := Monitor.start_of_stopped hs
    obtain ⟨visited, hclear⟩ := h.run_sweep (c := .start now)
      (m := s.memory.swapped s.memory.epoch) rfl
    simp only [run, List.replicate, List.foldl, step, proceed, hs, Change.starts,
      Bool.false_eq_true, if_false, if_true] at hclear ⊢
    rw [hclear]
    simp only [List.not_mem_nil, false_implies, implies_true, if_true]
    refine ⟨⟨hq.idle, rfl⟩, ?_, rfl⟩
    simp only [Watch.step, Watch.react, Watch.start, watch, hmonitor]
    simp [answered, Memory.monitor, Memory.swapped, Monitor.renewed, Change.millis]
  · have hmonitor : s.memory.monitor.start now = _ := Monitor.start_of_started hs
    have hclear := run_clear_of_free (s := s.answered (.start now) false) rfl
    simp only [run, List.replicate, List.foldl, step, proceed, hs, Change.starts, if_true,
      answered] at hclear ⊢
    rw [hclear]
    refine ⟨⟨hq.idle, rfl⟩, ?_, rfl⟩
    simp only [Watch.step, Watch.react, Watch.start, watch, hmonitor]

lemma takes_stop (h : s.Consistent) (hq : s.Quiet) :
    s.Takes r .stop (s.run (whole s.memory.registry .stop)) := by
  rw [whole, run_append, run_append, run_cons, step, seize, hq.free]
  rcases hs : s.memory.isStarted with _ | _
  · have hmonitor : s.memory.monitor.stop = _ := Monitor.stop_of_stopped hs
    have hclear := run_clear_of_free (s := s.answered .stop false) rfl
    simp only [run, List.replicate, List.foldl, step, proceed, hs, Change.starts, if_true,
      answered] at hclear ⊢
    rw [hclear]
    refine ⟨⟨hq.idle, rfl⟩, ?_, rfl⟩
    simp only [Watch.step, Watch.react, Watch.stop, watch, hmonitor]
  · have hmonitor : s.memory.monitor.stop = _ := Monitor.stop_of_started hs
    obtain ⟨visited, hclear⟩ := h.run_sweep (c := .stop)
      (m := { s.memory with startMillis := none }.swapped s.memory.epoch) rfl
    simp only [run, List.replicate, List.foldl, step, proceed, hs, Change.starts, Change.millis,
      Bool.true_eq_false, Bool.false_eq_true, if_false] at hclear ⊢
    rw [hclear]
    simp only [List.not_mem_nil, false_implies, implies_true, if_true]
    refine ⟨⟨hq.idle, rfl⟩, ?_, rfl⟩
    simp only [Watch.step, Watch.react, Watch.stop, watch, hmonitor]
    simp [answered, Memory.monitor, Memory.swapped, Monitor.renewed]

/-! ### Runs -/

lemma takes_whole (h : s.Consistent) (hq : s.Quiet) {e : Event} (he : ∀ now, e ≠ .report now) :
    s.Takes r e (s.run (whole s.memory.registry e)) := by
  cases e with
  | enter t service pipeline state now => exact takes_enter h hq t service pipeline state now
  | leave n failed => exact takes_leave h hq n failed
  | start now => exact takes_start h hq now
  | stop => exact takes_stop h hq
  | report now => exact absurd rfl (he now)

end State

/-- Every run of a watch without reports is a race: there are steps that lead, from rest to rest,
to the same monitor, the same tickets and the same journal. -/
theorem exists_race (r : Renderer) (es : List Event) (hes : ∀ now, .report now ∉ es) :
    ∃ as, let s := State.run .init as
      s.Quiet ∧ s.watch r = Watch.run (.init r) es ∧ s.journal = Journal.ofEvents es := by
  induction es using List.reverseRecOn with
  | nil => exact ⟨[], ⟨fun _ => rfl, rfl⟩, rfl, rfl⟩
  | append_singleton es e ih =>
    obtain ⟨as, hq, hwatch, hjournal⟩ := ih fun now hm => hes now (List.mem_append_left _ hm)
    have he : ∀ now, e ≠ .report now := fun now he => hes now (by simp [he])
    have ht := State.takes_whole (r := r) (State.consistent_run as) hq he
    refine ⟨as ++ whole (State.run .init as).memory.registry e, ?_⟩
    rw [State.run_append, Watch.run_append, Journal.ofEvents_append_singleton, ← hwatch,
      ← hjournal]
    exact ⟨ht.quiet, ht.watch, ht.journal⟩

end CallWatch.Race
