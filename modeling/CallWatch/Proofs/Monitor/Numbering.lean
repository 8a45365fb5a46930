import CallWatch.Monitor.Watch
import CallWatch.Proofs.Monitor.Stacks
import Mathlib.Data.List.Induction

/-!
What the operations of a monitor do, and the numbers that they give out.

Every registered frame has a serial number of its own, smaller than the next one, and only
frames that have been registered have kept HTML. No ticket is of an epoch to come.
-/

namespace CallWatch

/-! ### The operations -/

namespace Monitor

variable {m : Monitor} {t : Thread} {now : Instant} {service : ServiceDescriptor}
  {pipeline : Pipeline} {state : Except Envelope InvokeState} {st : InvokeState} {k : Ticket}
  {failed : Bool}

lemma register_of_stopped (h : m.isStarted = false) :
    m.register t now service pipeline state = (none, m) := by
  simp [register, h]

lemma register_error {e : Envelope} :
    m.register t now service pipeline (.error e) = (none, m) := by
  unfold register
  split_ifs <;> rfl

lemma register_ok (h : m.isStarted = true) :
    m.register t now service pipeline (.ok st) =
      (some ⟨t.number, m.epoch, m.nextSerial⟩, { m with
        registry := m.registry.push t ⟨m.nextSerial, service, pipeline, st, now⟩
        invocations := m.invocations + 1
        nextSerial := m.nextSerial + 1 }) := by
  simp [register, h]

/-- A registration gives no ticket and leaves the monitor alone, or it gives one of the current
epoch. -/
lemma register_cases (m : Monitor) (t : Thread) (now : Instant) (service : ServiceDescriptor)
    (pipeline : Pipeline) (state : Except Envelope InvokeState) :
    m.register t now service pipeline state = (none, m) ∨
      ∃ st, m.register t now service pipeline state =
        (some ⟨t.number, m.epoch, m.nextSerial⟩, { m with
          registry := m.registry.push t ⟨m.nextSerial, service, pipeline, st, now⟩
          invocations := m.invocations + 1
          nextSerial := m.nextSerial + 1 }) := by
  rcases hs : m.isStarted with _ | _
  · exact Or.inl (register_of_stopped hs)
  · rcases state with e | st
    · exact Or.inl register_error
    · exact Or.inr ⟨st, register_ok hs⟩

lemma complete_none : m.complete none failed = m := rfl

lemma complete_of_ne (h : k.epoch ≠ m.epoch) : m.complete (some k) failed = m := by
  simp [complete, h]

lemma complete_of_lt {k : Option Ticket} (h : ∀ t, k = some t → t.epoch < m.epoch) :
    m.complete k failed = m := by
  rcases k with _ | t
  · exact complete_none
  · exact complete_of_ne (Nat.ne_of_lt (h t rfl))

lemma complete_of_eq (h : k.epoch = m.epoch) :
    m.complete (some k) failed = { m with
      registry := m.registry.pop k.thread k.serial
      errors := if failed then m.errors + 1 else m.errors } := by
  simp [complete, h]

lemma start_of_started (h : m.isStarted = true) : m.start now = (false, m) := by
  simp [start, h]

lemma start_of_stopped (h : m.isStarted = false) :
    m.start now = (true, { m.renewed with startMillis := some (max now.millis 1) }) := by
  simp [start, h]

lemma stop_of_started (h : m.isStarted = true) :
    m.stop = (true, { m.renewed with startMillis := none }) := by
  simp [stop, h]

lemma stop_of_stopped (h : m.isStarted = false) : m.stop = (false, m) := by
  simp [stop, h]

lemma complete_cases (m : Monitor) (k : Option Ticket) (failed : Bool) :
    m.complete k failed = m ∨ ∃ n s, m.complete k failed = { m with
      registry := m.registry.pop n s
      errors := if failed then m.errors + 1 else m.errors } := by
  rcases k with _ | t
  · exact Or.inl complete_none
  · by_cases he : t.epoch = m.epoch
    · exact Or.inr ⟨t.thread, t.serial, complete_of_eq he⟩
    · exact Or.inl (complete_of_ne he)

lemma start_cases (m : Monitor) (now : Instant) : m.start now = (false, m) ∨
    m.start now = (true, { m.renewed with startMillis := some (max now.millis 1) }) := by
  rcases hs : m.isStarted with _ | _
  · exact Or.inr (start_of_stopped hs)
  · exact Or.inl (start_of_started hs)

lemma stop_cases (m : Monitor) :
    m.stop = (false, m) ∨ m.stop = (true, { m.renewed with startMillis := none }) := by
  rcases hs : m.isStarted with _ | _
  · exact Or.inl (stop_of_stopped hs)
  · exact Or.inr (stop_of_started hs)

lemma report_snd (r : Renderer) :
    (m.report r now).2 = { m with
      registry := m.registry.filter fun i => !i.isEmpty
      kept := (Invocation.reports r now m.registry m.kept).2 } := rfl

/-- The report of a sound registry changes nothing but the HTML that is kept. -/
lemma report_of_sound (r : Renderer) (h : m.registry.Sound) :
    (m.report r now).2 = { m with kept := (Invocation.reports r now m.registry m.kept).2 } := by
  rw [report_snd, h.filter_eq_self]

end Monitor

/-! ### The HTML that is kept -/

lemma Renderings.fst_mem_read {r : Renderer} {f : Frame} {kept : Renderings}
    {p : Nat × Option String} (h : p ∈ (kept.read r f).2) : p ∈ kept ∨ p.1 = f.serial := by
  unfold read at h
  split at h
  · exact Or.inl h
  · rcases List.mem_cons.mp h with rfl | h
    · exact Or.inr rfl
    · exact Or.inl h

lemma Frame.fst_mem_reports {r : Renderer} {now : Instant} {fs : List Frame} {kept : Renderings}
    {p : Nat × Option String} (h : p ∈ (reports r now fs kept).2) :
    p ∈ kept ∨ ∃ f ∈ fs, p.1 = f.serial := by
  induction fs generalizing kept with
  | nil => exact Or.inl h
  | cons f fs ih =>
    rcases ih h with h | ⟨g, hg, hp⟩
    · rcases Renderings.fst_mem_read h with h | h
      · exact Or.inl h
      · exact Or.inr ⟨f, List.mem_cons_self, h⟩
    · exact Or.inr ⟨g, List.mem_cons_of_mem _ hg, hp⟩

lemma Invocation.fst_mem_report {r : Renderer} {now : Instant} {i : Invocation} {kept : Renderings}
    {p : Nat × Option String} (h : p ∈ (i.report r now kept).2) :
    p ∈ kept ∨ ∃ f ∈ i.frames, p.1 = f.serial := by
  unfold report at h
  split at h
  · exact Or.inl h
  · exact Frame.fst_mem_reports h

lemma Invocation.fst_mem_reports {r : Renderer} {now : Instant} {is : Registry} {kept : Renderings}
    {p : Nat × Option String} (h : p ∈ (reports r now is kept).2) :
    p ∈ kept ∨ ∃ f ∈ is.frames, p.1 = f.serial := by
  induction is generalizing kept with
  | nil => exact Or.inl h
  | cons i is ih =>
    rcases ih h with h | ⟨f, hf, hp⟩
    · rcases fst_mem_report h with h | ⟨f, hf, hp⟩
      · exact Or.inl h
      · exact Or.inr ⟨f, List.mem_append_left _ hf, hp⟩
    · exact Or.inr ⟨f, List.mem_append_right _ hf, hp⟩

/-! ### The numbers -/

namespace Monitor

structure Numbered (m : Monitor) : Prop where
  serial_lt : ∀ f ∈ m.registry.frames, f.serial < m.nextSerial
  serial_nodup : (m.registry.frames.map Frame.serial).Nodup
  kept_lt : ∀ p ∈ m.kept, p.1 < m.nextSerial

variable {m : Monitor} {t : Thread} {now : Instant} {service : ServiceDescriptor}
  {pipeline : Pipeline} {state : Except Envelope InvokeState} {k : Option Ticket} {failed : Bool}

lemma numbered_init : init.Numbered :=
  ⟨by simp [init], by simp [init], by simp [init]⟩

lemma Numbered.renewed (h : m.Numbered) (s : Option Int) :
    Numbered { m.renewed with startMillis := s } :=
  ⟨by simp [Monitor.renewed], by simp [Monitor.renewed], h.kept_lt⟩

/-- A frame with the next serial number comes in. -/
lemma Numbered.of_push {m' : Monitor} {f : Frame} (h : m.Numbered)
    (hr : m'.registry = m.registry.push t f) (hf : f.serial = m.nextSerial)
    (hn : m'.nextSerial = m.nextSerial + 1) (hk : m'.kept = m.kept) : m'.Numbered := by
  have hp : m'.registry.frames.Perm (f :: m.registry.frames) := hr ▸ Registry.frames_push
  refine ⟨fun g hg => ?_, ?_, fun p hp => ?_⟩
  · rw [hn]
    rcases List.mem_cons.mp (hp.mem_iff.mp hg) with rfl | hg
    · exact Nat.lt_succ_of_le (Nat.le_of_eq hf)
    · exact Nat.lt_succ_of_lt (h.serial_lt g hg)
  · refine (hp.map Frame.serial).nodup_iff.mpr (List.nodup_cons.mpr ⟨fun hm => ?_, h.serial_nodup⟩)
    obtain ⟨g, hg, he⟩ := List.mem_map.mp hm
    exact absurd (h.serial_lt g hg) (by simp [he, hf])
  · rw [hk] at hp
    exact hn ▸ Nat.lt_succ_of_lt (h.kept_lt p hp)

/-- Frames go. -/
lemma Numbered.of_sublist {m' : Monitor} (h : m.Numbered)
    (hs : m'.registry.frames.Sublist m.registry.frames) (hn : m'.nextSerial = m.nextSerial)
    (hk : m'.kept = m.kept) : m'.Numbered :=
  ⟨fun f hf => hn ▸ h.serial_lt f (hs.subset hf), h.serial_nodup.sublist (hs.map _),
    fun p hp => hn ▸ h.kept_lt p (hk ▸ hp)⟩

lemma Numbered.register (h : m.Numbered) :
    (m.register t now service pipeline state).2.Numbered := by
  rcases m.register_cases t now service pipeline state with hr | ⟨st, hr⟩
  · rw [hr]
    exact h
  · rw [hr]
    exact h.of_push rfl rfl rfl rfl

lemma Numbered.complete (h : m.Numbered) : (m.complete k failed).Numbered := by
  rcases m.complete_cases k failed with hc | ⟨n, s, hc⟩
  · rw [hc]
    exact h
  · rw [hc]
    exact h.of_sublist Registry.frames_pop_sublist rfl rfl

lemma Numbered.start (h : m.Numbered) : (m.start now).2.Numbered := by
  rcases m.start_cases now with hs | hs
  · rw [hs]
    exact h
  · rw [hs]
    exact h.renewed _

lemma Numbered.stop (h : m.Numbered) : m.stop.2.Numbered := by
  rcases m.stop_cases with hs | hs
  · rw [hs]
    exact h
  · rw [hs]
    exact h.renewed _

lemma Numbered.report (h : m.Numbered) (r : Renderer) : (m.report r now).2.Numbered := by
  rw [report_snd]
  have hs := Registry.frames_filter_sublist (r := m.registry) fun i => !i.isEmpty
  refine ⟨fun f hf => h.serial_lt f (hs.subset hf), h.serial_nodup.sublist (hs.map _),
    fun p hp => ?_⟩
  rcases Invocation.fst_mem_reports hp with hp | ⟨f, hf, he⟩
  · exact h.kept_lt p hp
  · exact he ▸ h.serial_lt f hf

lemma epoch_register : (m.register t now service pipeline state).2.epoch = m.epoch := by
  rcases m.register_cases t now service pipeline state with hr | ⟨st, hr⟩ <;> rw [hr]

lemma epoch_complete : (m.complete k failed).epoch = m.epoch := by
  rcases m.complete_cases k failed with hc | ⟨n, s, hc⟩ <;> rw [hc]

lemma epoch_le_start : m.epoch ≤ (m.start now).2.epoch := by
  rcases m.start_cases now with hs | hs <;> simp [hs, Monitor.renewed]

lemma epoch_le_stop : m.epoch ≤ m.stop.2.epoch := by
  rcases m.stop_cases with hs | hs <;> simp [hs, Monitor.renewed]

lemma epoch_of_register {t' : Ticket}
    (h : (m.register t now service pipeline state).1 = some t') : t'.epoch = m.epoch := by
  rcases m.register_cases t now service pipeline state with hr | ⟨st, hr⟩
  · simp [hr] at h
  · rw [hr] at h
    exact (Option.some.inj h) ▸ rfl

end Monitor

namespace Watch

structure Numbered (w : Watch) : Prop where
  monitor : w.monitor.Numbered
  epoch_le : ∀ n k, some k ∈ w.unfinished n → k.epoch ≤ w.monitor.epoch

lemma numbered_init (r : Renderer) : (init r).Numbered :=
  ⟨Monitor.numbered_init, by simp [init]⟩

lemma Numbered.step {w : Watch} (h : w.Numbered) (e : Event) : (w.step e).Numbered := by
  cases e with
  | enter t service pipeline state now =>
    refine ⟨h.monitor.register, fun n k hk => ?_⟩
    simp only [Watch.step, react, Watch.enter] at hk ⊢
    rw [Monitor.epoch_register]
    by_cases hn : n = t.number
    · subst hn
      rw [setAt_same] at hk
      rcases List.mem_cons.mp hk with hk | hk
      · exact Nat.le_of_eq (Monitor.epoch_of_register hk.symm)
      · exact h.epoch_le _ k hk
    · rw [setAt_of_ne _ _ hn] at hk
      exact h.epoch_le n k hk
  | leave thread failed =>
    simp only [Watch.step, react, Watch.leave]
    rcases hu : w.unfinished thread with _ | ⟨k, ks⟩
    · exact h
    · refine ⟨h.monitor.complete, fun n k' hk => ?_⟩
      simp only at hk ⊢
      rw [Monitor.epoch_complete]
      by_cases hn : n = thread
      · subst hn
        rw [setAt_same] at hk
        exact h.epoch_le n k' (hu ▸ List.mem_cons_of_mem _ hk)
      · rw [setAt_of_ne _ _ hn] at hk
        exact h.epoch_le n k' hk
  | start now =>
    exact ⟨h.monitor.start, fun n k hk => Nat.le_trans (h.epoch_le n k hk) Monitor.epoch_le_start⟩
  | stop =>
    exact ⟨h.monitor.stop, fun n k hk => Nat.le_trans (h.epoch_le n k hk) Monitor.epoch_le_stop⟩
  | report now => exact ⟨h.monitor.report _, h.epoch_le⟩

theorem numbered_run (r : Renderer) (es : List Event) : (run (init r) es).Numbered := by
  induction es using List.reverseRecOn with
  | nil => exact numbered_init r
  | append_singleton es e ih =>
    rw [run_append, run_cons, run_nil]
    exact ih.step e

/-- All that an event can do to the monitor. -/
lemma monitor_step (w : Watch) (e : Event) :
    (w.step e).monitor = w.monitor ∨
      (∃ t service pipeline state st now, e = .enter t service pipeline state now ∧
        (w.step e).monitor = { w.monitor with
          registry := w.monitor.registry.push t ⟨w.monitor.nextSerial, service, pipeline, st, now⟩
          invocations := w.monitor.invocations + 1
          nextSerial := w.monitor.nextSerial + 1 }) ∨
      (∃ m failed n s, e = .leave m failed ∧ (w.step e).monitor = { w.monitor with
        registry := w.monitor.registry.pop n s
        errors := if failed then w.monitor.errors + 1 else w.monitor.errors }) ∨
      (∃ now, e = .start now ∧ (w.step e).monitor =
        { w.monitor.renewed with startMillis := some (max now.millis 1) }) ∨
      (e = .stop ∧ (w.step e).monitor = { w.monitor.renewed with startMillis := none }) ∨
      ∃ now, e = .report now ∧ (w.step e).monitor = (w.monitor.report w.renderer now).2 := by
  cases e with
  | enter t service pipeline state now =>
    simp only [step, react, enter]
    rcases w.monitor.register_cases t now service pipeline state with hr | ⟨st, hr⟩ <;> rw [hr]
    · exact .inl rfl
    · exact .inr (.inl ⟨t, service, pipeline, state, st, now, rfl, rfl⟩)
  | leave m failed =>
    simp only [step, react, leave]
    split
    · exact .inl rfl
    · rename_i k ks hu
      rcases w.monitor.complete_cases k failed with hc | ⟨n, s, hc⟩ <;> rw [hc]
      · exact .inl rfl
      · exact .inr (.inr (.inl ⟨m, failed, n, s, rfl, rfl⟩))
  | start now =>
    simp only [step, react, start]
    rcases w.monitor.start_cases now with hs | hs <;> rw [hs]
    · exact .inl rfl
    · exact .inr (.inr (.inr (.inl ⟨now, rfl, rfl⟩)))
  | stop =>
    simp only [step, react, stop]
    rcases w.monitor.stop_cases with hs | hs <;> rw [hs]
    · exact .inl rfl
    · exact .inr (.inr (.inr (.inr (.inl ⟨trivial, rfl⟩))))
  | report now => exact .inr (.inr (.inr (.inr (.inr ⟨now, rfl, rfl⟩))))

lemma renderer_step (w : Watch) (event : Event) : (w.step event).renderer = w.renderer := by
  cases event with
  | leave n failed =>
    simp only [step, react, Watch.leave]
    split <;> rfl
  | _ => rfl

lemma renderer_run (w : Watch) (es : List Event) : (run w es).renderer = w.renderer := by
  induction es generalizing w with
  | nil => rfl
  | cons event es ih => rw [run_cons, ih, renderer_step]

end Watch

end CallWatch
