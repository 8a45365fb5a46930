import CallWatch.Proofs.Monitor.Journal
import CallWatch.Proofs.Monitor.Numbering

/-!
The registry and the counters of a monitor say exactly what the journal says.

Every run of a watch is coupled with the journal of its events: thread by thread, the
tickets of the unfinished calls, the calls in the journal and the frames in the registry
stand in the same order. The start number of a registered call determines the epoch of its
ticket, because starts and stops alternate.
-/

namespace CallWatch

open Registry

/-- A frame shows a call as it was when it began. -/
structure Frame.Shows (f : Frame) (v : Visit) : Prop where
  service : f.service = v.service
  pipeline : f.pipeline = v.pipeline
  state : .ok f.state = v.state
  startedAt : f.startedAt = v.now

/-- What the monitor gave to a call of thread `n`: a ticket exactly if it was registered. -/
inductive Issued (n : Nat) : Option Ticket → Visit → Prop
  | unregistered {v : Visit} (hv : v.registered = false) : Issued n none v
  | registered {t : Ticket} {v : Visit} {a : Nat} (hv : v.registered = true)
      (ha : v.activation = some a) (he : t.epoch + 1 = 2 * a) (ht : t.thread = n) :
      Issued n (some t) v

/-- The tickets, the calls and the frames of thread `n` in epoch `e`, innermost first: only
the calls of this epoch have frames. -/
inductive Matched (n e : Nat) : List (Option Ticket) → List Visit → List Frame → Prop
  | nil : Matched n e [] [] []
  | past {k : Option Ticket} {v : Visit} {ks : List (Option Ticket)} {vs : List Visit}
      {fs : List Frame} (hk : Issued n k v) (he : ∀ t, k = some t → t.epoch < e)
      (h : Matched n e ks vs fs) : Matched n e (k :: ks) (v :: vs) fs
  | live {t : Ticket} {v : Visit} {f : Frame} {ks : List (Option Ticket)} {vs : List Visit}
      {fs : List Frame} (hk : Issued n (some t) v) (he : t.epoch = e) (hs : t.serial = f.serial)
      (hf : f.Shows v) (h : Matched n e ks vs fs) :
      Matched n e (some t :: ks) (v :: vs) (f :: fs)

structure Coupled (w : Watch) (j : Journal) : Prop where
  sound : w.monitor.registry.Sound
  started : w.monitor.isStarted = j.started
  epoch : w.monitor.epoch + j.started.toNat = 2 * j.starts
  starts_le : ∀ v ∈ j.visits, ∀ a, v.activation = some a → a ≤ j.starts
  matched : ∀ n, Matched n w.monitor.epoch (w.unfinished n) (Visit.unfinished n j.visits)
    (stack n w.monitor.registry)
  invocations : w.monitor.invocations = j.visits.countP j.counts
  errors : w.monitor.errors = j.visits.countP fun v => j.counts v && v.ended == some true
  size : w.monitor.registry.frames.length =
    j.visits.countP fun v => j.counts v && v.ended.isNone

section

variable {w : Watch} {j : Journal} {n e e' : Nat} {k : Option Ticket} {t : Ticket} {v : Visit}
  {ks : List (Option Ticket)} {vs : List Visit} {fs : List Frame}

lemma Matched.renew (h : Matched n e ks vs fs) (he : e < e') : Matched n e' ks vs [] := by
  induction h with
  | nil => exact .nil
  | past hk hlt _ ih => exact .past hk (fun t ht => Nat.lt_trans (hlt t ht) he) ih
  | live hk heq _ _ _ ih =>
    refine .past hk (fun t ht => ?_) ih
    obtain rfl := Option.some.inj ht
    omega

/-- The frames show the calls of the epoch, by whatever these are told. -/
lemma Matched.shows {p : Visit → Bool}
    (hp : ∀ k v, Issued n k v → (p v = true ↔ ∃ t, k = some t ∧ t.epoch = e))
    (h : Matched n e ks vs fs) : List.Forall₂ Frame.Shows fs (vs.filter p) := by
  induction h with
  | nil => exact .nil
  | past hk he _ ih =>
    rw [List.filter_cons_of_neg]
    · exact ih
    · rw [hp _ _ hk]
      rintro ⟨t, ht, hte⟩
      exact absurd (he t ht) (by omega)
  | live hk he _ hf _ ih =>
    rw [List.filter_cons_of_pos ((hp _ _ hk).mpr ⟨_, rfl, he⟩)]
    exact .cons hf ih

/-- A call counts exactly if its ticket is of the current epoch. -/
lemma Coupled.counts_iff (h : Coupled w j) (hk : Issued n k v) :
    j.counts v = true ↔ ∃ t, k = some t ∧ t.epoch = w.monitor.epoch := by
  have hp := h.epoch
  cases hk with
  | unregistered hv => simp [Journal.counts_of_unregistered hv]
  | registered hv ha he ht =>
    rcases hs : j.started with _ | _
    · rw [hs] at hp
      simp only [Journal.counts_of_stopped hs, Option.some.injEq, exists_eq_left',
        Bool.false_eq_true, false_iff]
      simp only [Bool.toNat_false] at hp
      omega
    · rw [hs] at hp
      simp only [Journal.counts, hv, ha, Journal.activation, hs, Bool.true_and, if_true, beq_iff_eq,
        Option.some.injEq, exists_eq_left']
      simp only [Bool.toNat_true] at hp
      omega

lemma Coupled.counts_past (h : Coupled w j) (hk : Issued n k v)
    (he : ∀ t, k = some t → t.epoch < w.monitor.epoch) : j.counts v = false := by
  rw [← Bool.not_eq_true, h.counts_iff hk]
  rintro ⟨t, ht, hte⟩
  exact absurd (he t ht) (by omega)

lemma Coupled.counts_live (h : Coupled w j) (hk : Issued n (some t) v)
    (he : t.epoch = w.monitor.epoch) : j.counts v = true :=
  (h.counts_iff hk).mpr ⟨t, rfl, he⟩

/-- The frames on a thread's stack show its unfinished calls that count. -/
lemma Coupled.shows (h : Coupled w j) (hm : Matched n w.monitor.epoch ks vs fs) :
    List.Forall₂ Frame.Shows fs (vs.filter j.counts) :=
  hm.shows fun _ _ hk => h.counts_iff hk

end

/-! ### One event -/

namespace Coupled

variable {w : Watch} {j : Journal} {t : Thread} {service : ServiceDescriptor}
  {pipeline : Pipeline} {state : Except Envelope InvokeState} {now : Instant} {n : Nat}
  {failed : Bool}

lemma init (r : Renderer) : Coupled (.init r) .empty where
  sound := sound_nil
  started := rfl
  epoch := rfl
  starts_le := by simp [Journal.empty]
  matched _ := .nil
  invocations := rfl
  errors := rfl
  size := rfl

/-- A call that is not registered gets no ticket and leaves the monitor as it is. -/
lemma register_none (h : Coupled w j) (hr : j.started = false ∨ state.isOk = false) :
    w.monitor.register t now service pipeline state = (none, w.monitor) := by
  rcases hr with hr | hr
  · exact Monitor.register_of_stopped (h.started.trans hr)
  · rcases state with e | st
    · exact Monitor.register_error
    · simp [Except.isOk, Except.toBool] at hr

lemma starts_le_enter (h : Coupled w j) :
    ∀ v ∈ (j.note (.enter t service pipeline state now)).visits, ∀ a, v.activation = some a →
      a ≤ j.starts := by
  intro v hm a ha
  rcases List.mem_cons.mp hm with rfl | hm
  · simp only [Journal.visit, Journal.activation] at ha
    split_ifs at ha
    exact Nat.le_of_eq (Option.some.inj ha).symm
  · exact h.starts_le v hm a ha

lemma enter_unregistered (h : Coupled w j) (hr : j.started = false ∨ state.isOk = false) :
    Coupled (w.enter t service pipeline state now)
      (j.note (.enter t service pipeline state now)) := by
  have hv : (j.visit t service pipeline state now).registered = false := by
    rcases hr with hr | hr <;> simp [Journal.visit, Visit.registered, Journal.activation, hr]
  have hc := Journal.counts_of_unregistered (j := j) hv
  rw [Watch.enter, h.register_none hr]
  refine ⟨h.sound, h.started, h.epoch, h.starts_le_enter, fun n => ?_, ?_, ?_, ?_⟩
  · by_cases hn : n = t.number
    · subst hn
      simp only [setAt_same, Journal.visits_note_enter, Journal.unfinished_visit_same]
      exact .past (.unregistered hv) (by simp) (h.matched t.number)
    · simp only [setAt_of_ne _ _ hn, Journal.visits_note_enter, Journal.unfinished_visit_of_ne hn]
      exact h.matched n
  · simpa [hc] using h.invocations
  · simpa using h.errors
  · simpa [hc] using h.size

lemma enter_registered {st : InvokeState} (h : Coupled w j) (hs : j.started = true) :
    Coupled (w.enter t service pipeline (.ok st) now)
      (j.note (.enter t service pipeline (.ok st) now)) := by
  have hp := h.epoch
  rw [hs, Bool.toNat_true] at hp
  set v := j.visit t service pipeline (.ok st) now with hvdef
  have hv : v.registered = true := by
    simp [hvdef, Journal.visit, Visit.registered, Journal.activation, hs, Except.isOk,
      Except.toBool]
  have hk : Issued t.number (some ⟨t.number, w.monitor.epoch, w.monitor.nextSerial⟩) v :=
    .registered hv (by simp [hvdef, Journal.visit, Journal.activation, hs]) hp rfl
  have hc := h.counts_live hk rfl
  rw [Watch.enter, Monitor.register_ok (h.started.trans hs)]
  refine ⟨h.sound.push _ _, h.started, h.epoch, h.starts_le_enter, fun n => ?_, ?_, ?_, ?_⟩
  · by_cases hn : n = t.number
    · subst hn
      simp only [setAt_same, Journal.visits_note_enter, Journal.unfinished_visit_same,
        stack_push_same]
      exact .live hk rfl rfl ⟨rfl, rfl, rfl, rfl⟩ (h.matched t.number)
    · simp only [setAt_of_ne _ _ hn, Journal.visits_note_enter, Journal.unfinished_visit_of_ne hn,
        stack_push_of_ne hn]
      exact h.matched n
  · simp [← hvdef, hc, h.invocations]
  · simpa using h.errors
  · have hn : v.ended = none := rfl
    simp [← hvdef, frames_push.length_eq, hc, hn, h.size]

lemma enter (h : Coupled w j) : Coupled (w.enter t service pipeline state now)
    (j.note (.enter t service pipeline state now)) := by
  rcases hs : j.started with _ | _
  · exact h.enter_unregistered (.inl hs)
  · rcases state with e | st
    · exact h.enter_unregistered (.inr rfl)
    · exact h.enter_registered hs

lemma starts_le_leave (h : Coupled w j) :
    ∀ v ∈ (j.note (.leave n failed)).visits, ∀ a, v.activation = some a → a ≤ j.starts := by
  intro v hm a ha
  obtain ⟨u, hu, he⟩ := Visit.mem_finish hm
  exact h.starts_le u hu a (he.trans ha)

/-- The threads after an exit, if the stacks of all threads but the one stay. -/
lemma matched_leave {r : Registry} {ks : List (Option Ticket)} {v : Visit} {vs : List Visit}
    {fs : List Frame} (h : Coupled w j) (hv : Visit.unfinished n j.visits = v :: vs)
    (hm : Matched n w.monitor.epoch ks vs fs) (hr : stack n r = fs)
    (hne : ∀ m, m ≠ n → stack m r = stack m w.monitor.registry) (m : Nat) :
    Matched m w.monitor.epoch (setAt w.unfinished n ks m)
      (Visit.unfinished m (j.note (.leave n failed)).visits) (stack m r) := by
  rw [Journal.visits_note_leave]
  by_cases hmn : m = n
  · subst hmn
    rwa [setAt_same, Visit.unfinished_finish_same, hv, List.tail_cons, hr]
  · rw [setAt_of_ne _ _ hmn, Visit.unfinished_finish_of_ne hmn, hne m hmn]
    exact h.matched m

lemma leave_past {k : Option Ticket} {ks : List (Option Ticket)} {v : Visit} {vs : List Visit}
    {fs : List Frame} (h : Coupled w j) (hu : w.unfinished n = k :: ks)
    (hv : Visit.unfinished n j.visits = v :: vs) (hs : stack n w.monitor.registry = fs)
    (hk : Issued n k v) (he : ∀ t, k = some t → t.epoch < w.monitor.epoch)
    (hm : Matched n w.monitor.epoch ks vs fs) :
    Coupled (w.leave n failed) (j.note (.leave n failed)) := by
  have hc := h.counts_past hk he
  have hcount (q : Option Bool → Bool) : (Visit.finish n failed j.visits).countP
      (fun v => j.counts v && q v.ended) = j.visits.countP fun v => j.counts v && q v.ended := by
    simpa [hc] using Visit.countP_finish failed (fun v => j.counts v && q v.ended) hv
  rw [Watch.leave, hu]
  simp only [Monitor.complete_of_lt he]
  refine ⟨h.sound, h.started, h.epoch, h.starts_le_leave,
    h.matched_leave hv hm hs fun _ _ => rfl, ?_, ?_, ?_⟩
  · simpa [h.invocations] using (hcount fun _ => true).symm
  · exact h.errors.trans (hcount fun o => o == some true).symm
  · exact h.size.trans (hcount Option.isNone).symm

lemma leave_live {t : Ticket} {ks : List (Option Ticket)} {v : Visit} {vs : List Visit}
    {f : Frame} {fs : List Frame} (h : Coupled w j) (hu : w.unfinished n = some t :: ks)
    (hv : Visit.unfinished n j.visits = v :: vs) (hs : stack n w.monitor.registry = f :: fs)
    (hk : Issued n (some t) v) (he : t.epoch = w.monitor.epoch) (hf : t.serial = f.serial)
    (hm : Matched n w.monitor.epoch ks vs fs) :
    Coupled (w.leave n failed) (j.note (.leave n failed)) := by
  have hc := h.counts_live hk he
  have ht : t.thread = n := by cases hk; assumption
  have hend := Visit.ended_of_unfinished hv
  have hcount (p : Visit → Bool) := Visit.countP_finish failed p hv
  rw [Watch.leave, hu]
  simp only [Monitor.complete_of_eq he, ht, hf]
  refine ⟨h.sound.pop _ _, h.started, h.epoch, h.starts_le_leave,
    h.matched_leave hv hm ?_ fun m hmn => stack_pop_of_ne hmn, ?_, ?_, ?_⟩
  · rw [h.sound.stack_pop_same, hs]
    simp
  · have := hcount j.counts
    simp only [Journal.counts_ended, hc] at this
    simp only [Journal.visits_note_leave, Journal.counts_note_leave, h.invocations]
    omega
  · have := hcount fun v => j.counts v && v.ended == some true
    rw [← h.errors] at this
    cases failed <;> simpa [hc, hend] using this.symm
  · have := hcount fun v => j.counts v && v.ended.isNone
    rw [← h.size, (frames_pop hs).length_eq] at this
    simpa [hc, hend] using this.symm

lemma leave (h : Coupled w j) : Coupled (w.leave n failed) (j.note (.leave n failed)) := by
  have hm := h.matched n
  generalize hu : w.unfinished n = ks, hv : Visit.unfinished n j.visits = vs,
    hs : stack n w.monitor.registry = fs at hm
  cases hm with
  | nil =>
    have hj : j.note (.leave n failed) = j := by simp [Journal.note, Visit.finish_of_nil hv]
    rw [Watch.leave, hu, hj]
    exact h
  | past hk he hm => exact h.leave_past hu hv hs hk he hm
  | live hk he hf _ hm => exact h.leave_live hu hv hs hk he hf hm

/-- A new epoch in which no call so far counts. -/
lemma renew (h : Coupled w j) {j' : Journal} {s : Option Int} (hs : s.isSome = j'.started)
    (hv : j'.visits = j.visits) (hst : j.starts ≤ j'.starts)
    (he : w.monitor.epoch + 1 + j'.started.toNat = 2 * j'.starts)
    (hc : ∀ v ∈ j.visits, j'.counts v = false) :
    Coupled { w with monitor := { w.monitor.renewed with startMillis := s } } j' := by
  have hzero := Journal.countP_of_none (hv ▸ hc)
  refine ⟨sound_nil, hs, he, fun v hm a ha => ?_, fun n => ?_, ?_, (hzero _).symm, (hzero _).symm⟩
  · rw [hv] at hm
    exact Nat.le_trans (h.starts_le v hm a ha) hst
  · rw [hv]
    exact (h.matched n).renew (Nat.lt_succ_self _)
  · simpa [Monitor.renewed] using (hzero fun _ => true).symm

lemma start (h : Coupled w j) : Coupled (w.start now).2 (j.note (.start now)) := by
  have hp := h.epoch
  rcases hs : j.started with _ | _
  · rw [hs, Bool.toNat_false] at hp
    rw [Watch.start, Monitor.start_of_stopped (h.started.trans hs), Journal.note,
      if_neg (by simp [hs])]
    refine h.renew rfl rfl (Nat.le_succ _) (by simp only [Bool.toNat_true]; omega) fun v hm => ?_
    -- a call so far has the number of an earlier start, or none
    have hne : v.activation ≠ some (j.starts + 1) := fun ha =>
      absurd (h.starts_le v hm _ ha) (by omega)
    simp [Journal.counts, Journal.activation, hne]
  · rw [Watch.start, Monitor.start_of_started (h.started.trans hs), Journal.note, if_pos hs]
    exact h

lemma stop (h : Coupled w j) : Coupled w.stop.2 (j.note .stop) := by
  have hp := h.epoch
  rcases hs : j.started with _ | _
  · have hj : j.note .stop = j := by rw [Journal.note, ← hs]
    rw [Watch.stop, Monitor.stop_of_stopped (h.started.trans hs), hj]
    exact h
  · rw [hs, Bool.toNat_true] at hp
    rw [Watch.stop, Monitor.stop_of_started (h.started.trans hs), Journal.note]
    exact h.renew rfl rfl (Nat.le_refl _) (by simpa using hp) fun v _ =>
      Journal.counts_of_stopped rfl

lemma report (h : Coupled w j) : Coupled (w.report now).2 (j.note (.report now)) := by
  rw [Watch.report, Monitor.report_of_sound _ h.sound, Journal.note]
  exact ⟨h.sound, h.started, h.epoch, h.starts_le, h.matched, h.invocations, h.errors, h.size⟩

lemma step (h : Coupled w j) (e : Event) : Coupled (w.step e) (j.note e) := by
  cases e with
  | enter t service pipeline state now => exact h.enter
  | leave n failed => exact h.leave
  | start now => exact h.start
  | stop => exact h.stop
  | report now => exact h.report

end Coupled

/-! ### Runs -/

lemma coupled_run (r : Renderer) (es : List Event) :
    Coupled (Watch.run (.init r) es) (.ofEvents es) := by
  induction es using List.reverseRecOn with
  | nil => exact .init r
  | append_singleton es e ih =>
    rw [Watch.run_append, Watch.run_cons, Watch.run_nil, Journal.ofEvents_append_singleton]
    exact ih.step e

/-- **The registry is exact.** After every run a thread has an entry exactly if it has an
unfinished call that counts; there is one entry a thread, no entry is empty, its frames show
those calls, innermost first, and no frame is there twice. -/
theorem registry_exact (r : Renderer) (es : List Event) :
    let reg := (Watch.run (.init r) es).monitor.registry
    let j := Journal.ofEvents es
    (∀ n, reg.tracks n = true ↔ j.live n ≠ []) ∧
      reg.numbers.Nodup ∧
      (∀ i ∈ reg, i.frames ≠ [] ∧ List.Forall₂ Frame.Shows i.frames (j.live i.thread.number)) ∧
      (reg.frames.map Frame.serial).Nodup := by
  intro reg j
  have h := coupled_run r es
  have hshows (n : Nat) : List.Forall₂ Frame.Shows (stack n reg) (j.live n) := h.shows (h.matched n)
  refine ⟨fun n => ?_, h.sound.numbers_nodup, fun i hi => ⟨h.sound.frames_ne_nil i hi, ?_⟩,
    (Watch.numbered_run r es).monitor.serial_nodup⟩
  · rw [h.sound.tracks_iff_stack, ← List.length_pos_iff, ← List.length_pos_iff,
      (hshows n).length_eq]
  · rw [← h.sound.stack_of_mem hi]
    exact hshows i.thread.number

/-- A call that is not registered, or ends without counting, moves no counter. -/
lemma Coupled.enter_monitor {w : Watch} {j : Journal} (h : Coupled w j) (t : Thread)
    (service : ServiceDescriptor) (pipeline : Pipeline) (now : Instant)
    {state : Except Envelope InvokeState} (hr : j.started = false ∨ state.isOk = false) :
    (w.enter t service pipeline state now).monitor = w.monitor := by
  rw [Watch.enter, h.register_none hr]

lemma Coupled.leave_monitor {w : Watch} {j : Journal} (h : Coupled w j) {n : Nat} (failed : Bool)
    (hc : ∀ v ∈ (Visit.unfinished n j.visits).head?, j.counts v = false) :
    (w.leave n failed).monitor = w.monitor := by
  have hm := h.matched n
  generalize hu : w.unfinished n = ks, hv : Visit.unfinished n j.visits = vs,
    hs : stack n w.monitor.registry = fs at hm
  rw [Watch.leave, hu]
  cases hm with
  | nil => rfl
  | past _ he _ => exact Monitor.complete_of_lt he
  | live hk he _ _ _ => exact absurd (h.counts_live hk he) (by simp [hc _ (by rw [hv]; rfl)])

/-- **The counters are exact.** After every run they say how many calls count and how many
of those have failed. A call that counts is in the registry or has ended; all other calls
leave both counters alone, when they begin and when they end. -/
theorem counters_exact (r : Renderer) (es : List Event) :
    let m := (Watch.run (.init r) es).monitor
    let j := Journal.ofEvents es
    m.isStarted = j.started ∧
      m.invocations = j.visits.countP j.counts ∧
      m.errors = j.visits.countP (fun v => j.counts v && v.ended == some true) ∧
      (m.isStarted = false → m.invocations = 0 ∧ m.errors = 0) ∧
      m.invocations =
        m.registry.frames.length + j.visits.countP (fun v => j.counts v && v.ended.isSome) ∧
      m.errors ≤ m.invocations ∧
      (∀ t service pipeline state now, (m.isStarted = false ∨ state.isOk = false) →
        let m' := (Watch.run (.init r) (es ++ [.enter t service pipeline state now])).monitor
        m'.invocations = m.invocations ∧ m'.errors = m.errors) ∧
      (∀ n failed, (∀ v ∈ (Visit.unfinished n j.visits).head?, j.counts v = false) →
        let m' := (Watch.run (.init r) (es ++ [.leave n failed])).monitor
        m'.invocations = m.invocations ∧ m'.errors = m.errors) := by
  intro m j
  have h := coupled_run r es
  refine ⟨h.started, h.invocations, h.errors, fun hs => ?_, ?_, ?_, ?_, ?_⟩
  · have hzero := Journal.countP_of_none fun v (_ : v ∈ j.visits) =>
      Journal.counts_of_stopped (h.started.symm.trans hs)
    exact ⟨h.invocations.trans (by simpa using hzero fun _ => true), h.errors.trans (hzero _)⟩
  · rw [h.invocations, h.size]
    exact Visit.countP_eq_add j.counts
  · rw [h.errors, h.invocations]
    exact List.countP_mono_left fun v _ hv => (Bool.and_eq_true _ _ ▸ hv).1
  · intro t service pipeline state now hr
    rw [Watch.run_append]
    have := h.enter_monitor t service pipeline now (hr.imp_left h.started.symm.trans)
    exact ⟨congrArg Monitor.invocations this, congrArg Monitor.errors this⟩
  · intro n failed hc
    rw [Watch.run_append]
    have := h.leave_monitor failed hc
    exact ⟨congrArg Monitor.invocations this, congrArg Monitor.errors this⟩

end CallWatch
