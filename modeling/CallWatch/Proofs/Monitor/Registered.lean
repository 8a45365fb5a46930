import CallWatch.Proofs.Monitor.Numbering

/-!
What a watch holds for the calls that go through it.

A call either leaves a frame with the monitor, in the epoch that it finds there, or nothing. What
the unfinished calls of every thread have left says which tickets and which frames a watch holds,
and every event keeps it so.
-/

namespace CallWatch

open Registry

/-- What a call leaves with a monitor that registers it. -/
structure Registration where
  epoch : Nat
  frame : Frame

namespace Registration

def ticket (n : Nat) (r : Registration) : Ticket := ⟨n, r.epoch, r.frame.serial⟩

/-- The frame, which is gone when the epoch is over. -/
def frame? (e : Nat) (r : Registration) : Option Frame :=
  if r.epoch = e then some r.frame else none

/-- The frames that are there in an epoch. -/
def frames (e : Nat) (rs : List (Option Registration)) : List Frame :=
  rs.filterMap fun r? => r?.bind (frame? e)

variable {e : Nat} {r : Registration} {rs : List (Option Registration)}

lemma frames_cons_of_eq (h : r.epoch = e) : frames e (some r :: rs) = r.frame :: frames e rs := by
  simp [frames, frame?, h]

lemma frames_cons_of_ne (h : r.epoch ≠ e) : frames e (some r :: rs) = frames e rs := by
  simp [frames, frame?, h]

lemma frames_of_lt (h : ∀ r, some r ∈ rs → r.epoch < e) : frames e rs = [] := by
  rw [frames, List.filterMap_eq_nil_iff]
  intro r? hr
  cases r? with
  | none => rfl
  | some r => exact if_neg (Nat.ne_of_lt (h r hr))

end Registration

/-! ### Monitors -/

namespace Monitor

/-- What a call leaves with a monitor: nothing if it is stopped or no state is bound. -/
def registration? (m : Monitor) (service : ServiceDescriptor) (pipeline : Pipeline)
    (state : Option InvokeState) (now : Instant) : Option Registration :=
  if m.isStarted then
    state.map fun s => ⟨m.epoch, m.nextSerial, service, pipeline, s, now⟩
  else none

variable {m : Monitor} {service : ServiceDescriptor} {pipeline : Pipeline} {now : Instant}

lemma epoch_of_registration? {state : Option InvokeState} {r : Registration}
    (h : m.registration? service pipeline state now = some r) : r.epoch = m.epoch := by
  unfold registration? at h
  split_ifs at h
  obtain ⟨s, -, rfl⟩ := Option.map_eq_some_iff.mp h
  rfl

lemma register_of_none {t : Thread} {state : Except Envelope InvokeState}
    (h : m.registration? service pipeline state.toOption now = none) :
    m.register t now service pipeline state = (none, m) := by
  rcases hs : m.isStarted with _ | _
  · exact register_of_stopped hs
  · rcases state with e | s
    · exact register_error
    · simp [registration?, hs, Except.toOption] at h

lemma register_of_some {t : Thread} {state : Except Envelope InvokeState} {r : Registration}
    (h : m.registration? service pipeline state.toOption now = some r) :
    m.register t now service pipeline state = (some (r.ticket t.number), { m with
      registry := m.registry.push t r.frame
      invocations := m.invocations + 1
      nextSerial := m.nextSerial + 1 }) := by
  unfold registration? at h
  split_ifs at h with hs
  rcases state with e | s
  · simp [Except.toOption] at h
  · obtain rfl := Option.some.inj h
    exact register_ok hs

end Monitor

/-! ### Watches -/

namespace Watch

/-- The watch holds what the unfinished calls of a thread have left, innermost first. -/
structure Holding (w : Watch) (n : Nat) (rs : List (Option Registration)) : Prop where
  unfinished : w.unfinished n = rs.map (Option.map (Registration.ticket n))
  stack : stack n w.monitor.registry = Registration.frames w.monitor.epoch rs
  epoch_le : ∀ r, some r ∈ rs → r.epoch ≤ w.monitor.epoch

structure Records (w : Watch) (rs : Nat → List (Option Registration)) : Prop where
  sound : w.monitor.registry.Sound
  holding : ∀ n, w.Holding n (rs n)

variable {w w' : Watch} {n : Nat} {r? : Option Registration} {rest : List (Option Registration)}
  {rs : Nat → List (Option Registration)}

lemma holding_setAt (hsame : w.Holding n rest) (hother : ∀ k, k ≠ n → w.Holding k (rs k)) :
    ∀ k, w.Holding k (setAt rs n rest k) := by
  intro k
  by_cases hk : k = n
  · rw [hk, setAt_same]
    exact hsame
  · rw [setAt_of_ne _ _ hk]
    exact hother k hk

/-- What happens on another thread in the same epoch. -/
lemma Holding.of_same {rs : List (Option Registration)} (h : w.Holding n rs)
    (hepoch : w'.monitor.epoch = w.monitor.epoch) (hunfinished : w'.unfinished n = w.unfinished n)
    (hstack : Registry.stack n w'.monitor.registry = Registry.stack n w.monitor.registry) :
    w'.Holding n rs where
  unfinished := hunfinished.trans h.unfinished
  stack := by rw [hstack, hepoch, h.stack]
  epoch_le := by
    rw [hepoch]
    exact h.epoch_le

namespace Records

lemma init (r : Renderer) : (Watch.init r).Records fun _ => [] where
  sound := sound_nil
  holding _ := ⟨rfl, rfl, fun _ h => absurd h List.not_mem_nil⟩

lemma enter (h : w.Records rs) (t : Thread) (service : ServiceDescriptor) (pipeline : Pipeline)
    (state : Except Envelope InvokeState) (now : Instant) :
    (w.enter t service pipeline state now).Records (setAt rs t.number
      (w.monitor.registration? service pipeline state.toOption now :: rs t.number)) := by
  have hthread := h.holding t.number
  cases hr : w.monitor.registration? service pipeline state.toOption now with
  | none =>
    rw [Watch.enter, Monitor.register_of_none hr]
    refine ⟨h.sound, holding_setAt ⟨?_, hthread.stack, ?_⟩ fun k hk => ?_⟩
    · simp [hthread.unfinished]
    · simpa using hthread.epoch_le
    · exact (h.holding k).of_same rfl (setAt_of_ne _ _ hk) rfl
  | some r =>
    have hepoch := Monitor.epoch_of_registration? hr
    rw [Watch.enter, Monitor.register_of_some hr]
    refine ⟨h.sound.push t _, holding_setAt ⟨?_, ?_, ?_⟩ fun k hk => ?_⟩
    · simp [hthread.unfinished]
    · rw [Registration.frames_cons_of_eq hepoch, ← hthread.stack]
      exact stack_push_same
    · intro r' hm
      rcases List.mem_cons.mp hm with heq | hm
      · obtain rfl := Option.some.inj heq
        exact Nat.le_of_eq hepoch
      · exact hthread.epoch_le r' hm
    · exact (h.holding k).of_same rfl (setAt_of_ne _ _ hk) (stack_push_of_ne hk)

/-- The end of a call takes its frame off the stack, if that is still there. -/
lemma leave (h : w.Records rs) (hn : rs n = r? :: rest) (failed : Bool) :
    (w.leave n failed).Records (setAt rs n rest) := by
  have hthread := hn ▸ h.holding n
  have hle : ∀ r, some r ∈ rest → r.epoch ≤ w.monitor.epoch := fun r hm =>
    hthread.epoch_le r (List.mem_cons_of_mem _ hm)
  have hunfinished := hthread.unfinished
  have hstack := hthread.stack
  rw [List.map_cons] at hunfinished
  rw [Watch.leave, hunfinished]
  rcases r? with _ | r
  · refine ⟨h.sound, holding_setAt ⟨setAt_same _ _ _, hstack, hle⟩ fun k hk => ?_⟩
    exact (h.holding k).of_same rfl (setAt_of_ne _ _ hk) rfl
  · simp only [Option.map_some]
    by_cases hepoch : r.epoch = w.monitor.epoch
    · rw [Registration.frames_cons_of_eq hepoch] at hstack
      rw [Monitor.complete_of_eq hepoch]
      refine ⟨h.sound.pop _ _, holding_setAt ⟨setAt_same _ _ _, ?_, hle⟩ fun k hk => ?_⟩
      · have hpop := h.sound.stack_pop_same (n := n) (s := r.frame.serial)
        rw [hstack, List.eraseP_cons_of_pos (by simp)] at hpop
        exact hpop
      · exact (h.holding k).of_same rfl (setAt_of_ne _ _ hk) (stack_pop_of_ne hk)
    · rw [Registration.frames_cons_of_ne hepoch] at hstack
      rw [Monitor.complete_of_ne hepoch]
      refine ⟨h.sound, holding_setAt ⟨setAt_same _ _ _, hstack, hle⟩ fun k hk => ?_⟩
      exact (h.holding k).of_same rfl (setAt_of_ne _ _ hk) rfl

/-- In a new epoch all frames are gone. -/
lemma renewed (h : w.Records rs) (s : Option Int) :
    Records { w with monitor := { w.monitor.renewed with startMillis := s } } rs where
  sound := sound_nil
  holding n := by
    have hlt : ∀ r, some r ∈ rs n → r.epoch < w.monitor.epoch + 1 := fun r hm =>
      Nat.lt_succ_of_le ((h.holding n).epoch_le r hm)
    exact ⟨(h.holding n).unfinished, (Registration.frames_of_lt hlt).symm,
      fun r hm => Nat.le_of_lt (hlt r hm)⟩

lemma start (h : w.Records rs) (now : Instant) : (w.start now).2.Records rs := by
  rcases w.monitor.start_cases now with hs | hs <;> rw [Watch.start, hs]
  · exact h
  · exact h.renewed _

lemma stop (h : w.Records rs) : w.stop.2.Records rs := by
  rcases w.monitor.stop_cases with hs | hs <;> rw [Watch.stop, hs]
  · exact h
  · exact h.renewed _

lemma report (h : w.Records rs) (now : Instant) : (w.report now).2.Records rs := by
  rw [Watch.report, Monitor.report_of_sound _ h.sound]
  exact ⟨h.sound, fun n => (h.holding n).of_same rfl rfl rfl⟩

end Records

end Watch

end CallWatch
