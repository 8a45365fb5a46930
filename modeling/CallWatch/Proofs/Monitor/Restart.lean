import CallWatch.Demo
import CallWatch.Proofs.Monitor.Numbering
import CallWatch.Proofs.Monitor.Renumbering

/-!
A start or a stop that takes effect cuts a run in two, and the second part does not see the
first.

From there a monitor does what a new one does that is spared the exits of the calls it has
not seen begin. The two stay at fixed distances: serial numbers and epochs of the older
monitor are those of the new one, raised by what they were at the cut. On every thread the
calls from before the cut lie below the later ones, and their tickets are of epochs that are
over.
-/

namespace CallWatch

/-! ### What is compared -/

/-- All but the answers to entries and exits. -/
def Answer.tells : Answer → Bool
  | .done => false
  | _ => true

/-- Two monitors that differ at most in what cannot be seen from outside: the number of the
epoch, the serial numbers and the HTML that is kept. -/
structure Monitor.Alike (m m' : Monitor) : Prop where
  startMillis : m.startMillis = m'.startMillis
  invocations : m.invocations = m'.invocations
  errors : m.errors = m'.errors
  registry : ∃ d, m.registry = m'.registry.renumber d

namespace Watch

/-- What starts, stops and reports answer in a run. -/
def heard : Watch → List Event → List Answer
  | _, [] => []
  | w, e :: es => [(w.react e).1].filter Answer.tells ++ heard (w.step e) es

/-- The events less the exits of calls that began before them. The unfinished calls of
thread `n` that began since are `own n`; they end first. -/
def withoutOlderExits (own : Nat → Nat) : List Event → List Event
  | [] => []
  | .enter t service pipeline state now :: es =>
    .enter t service pipeline state now ::
      withoutOlderExits (setAt own t.number (own t.number + 1)) es
  | .leave n failed :: es =>
    match own n with
    | 0 => withoutOlderExits own es
    | k + 1 => .leave n failed :: withoutOlderExits (setAt own n k) es
  | .start now :: es => .start now :: withoutOlderExits own es
  | .stop :: es => .stop :: withoutOlderExits own es
  | .report now :: es => .report now :: withoutOlderExits own es

/-- Whatever happens next, `w` answers and looks like `v`, which is spared the exits of the
calls that are now unfinished. -/
def Resembles (w v : Watch) : Prop := ∀ es,
  let fresh := withoutOlderExits (fun _ => 0) es
  heard w es = heard v fresh ∧ (run w es).monitor.Alike (run v fresh).monitor

end Watch

/-! ### Monitors at a distance -/

namespace Monitor

/-- The monitor `m` is `m'` with the serial numbers raised by `d` and the epoch by `e`. -/
structure Raised (d e : Nat) (m m' : Monitor) : Prop where
  epoch : m.epoch = m'.epoch + e
  startMillis : m.startMillis = m'.startMillis
  invocations : m.invocations = m'.invocations
  errors : m.errors = m'.errors
  registry : m.registry = m'.registry.renumber d
  nextSerial : m.nextSerial = m'.nextSerial + d
  kept : m.kept.Shifted d m'.kept

variable {d e : Nat} {m m' : Monitor}

lemma Raised.alike (h : m.Raised d e m') : m.Alike m' :=
  ⟨h.startMillis, h.invocations, h.errors, d, h.registry⟩

lemma Raised.isStarted (h : m.Raised d e m') : m.isStarted = m'.isStarted := by
  rw [Monitor.isStarted, Monitor.isStarted, h.startMillis]

/-- A renewed monitor and a new one. -/
lemma Numbered.raised_renewed (h : m.Numbered) {epoch : Nat} (he : m.epoch + 1 = epoch + e)
    (s : Option Int) : Raised m.nextSerial e { m.renewed with startMillis := s }
      { init with epoch := epoch, startMillis := s } where
  epoch := he
  startMillis := rfl
  invocations := rfl
  errors := rfl
  registry := rfl
  nextSerial := (Nat.zero_add _).symm
  kept u := by
    -- no HTML is kept under the number of a frame to come
    have hne : ∀ p ∈ m.kept, u + m.nextSerial ≠ p.1 := fun p hp => by
      have := h.kept_lt p hp
      omega
    exact List.lookup_eq_none_iff.mpr fun p hp => by simpa using hne p hp

lemma Raised.renewed (h : m.Raised d e m') (s : Option Int) :
    Raised d e { m.renewed with startMillis := s } { m'.renewed with startMillis := s } where
  epoch := by
    have := h.epoch
    simp only [Monitor.renewed]
    omega
  startMillis := rfl
  invocations := rfl
  errors := rfl
  registry := rfl
  nextSerial := h.nextSerial
  kept := h.kept

lemma Raised.register (h : m.Raised d e m') (t : Thread) (now : Instant)
    (service : ServiceDescriptor) (pipeline : Pipeline) (state : Except Envelope InvokeState) :
    (m.register t now service pipeline state).1 =
        (m'.register t now service pipeline state).1.map (Ticket.renumber d e) ∧
      (m.register t now service pipeline state).2.Raised d e
        (m'.register t now service pipeline state).2 := by
  rcases hs : m'.isStarted with _ | _
  · rw [register_of_stopped hs, register_of_stopped (h.isStarted.trans hs)]
    exact ⟨rfl, h⟩
  rcases state with error | st
  · rw [register_error, register_error]
    exact ⟨rfl, h⟩
  rw [register_ok hs, register_ok (h.isStarted.trans hs), h.epoch, h.nextSerial, h.registry,
    h.invocations]
  let f : Frame := ⟨m'.nextSerial, service, pipeline, st, now⟩
  have hpush : (m'.registry.renumber d).push t (f.renumber d) = (m'.registry.push t f).renumber d :=
    Registry.push_renumber
  have hnext : m'.nextSerial + d + 1 = m'.nextSerial + 1 + d := by omega
  exact ⟨rfl, ⟨rfl, h.startMillis, rfl, h.errors, hpush, hnext, h.kept⟩⟩

lemma Raised.complete (h : m.Raised d e m') (k : Option Ticket) (failed : Bool) :
    (m.complete (k.map (Ticket.renumber d e)) failed).Raised d e (m'.complete k failed) := by
  rcases k with _ | k
  · exact h
  have hk : (k.renumber d e).epoch = m.epoch ↔ k.epoch = m'.epoch := by
    have := h.epoch
    simp only [Ticket.renumber]
    omega
  rw [Option.map_some]
  by_cases he : k.epoch = m'.epoch
  · rw [complete_of_eq he, complete_of_eq (hk.mpr he), h.registry, h.errors]
    exact ⟨h.epoch, h.startMillis, h.invocations, rfl, Registry.pop_renumber, h.nextSerial, h.kept⟩
  · rw [complete_of_ne he, complete_of_ne (mt hk.mp he)]
    exact h

lemma Raised.start (h : m.Raised d e m') (now : Instant) :
    (m.start now).1 = (m'.start now).1 ∧ (m.start now).2.Raised d e (m'.start now).2 := by
  rcases hs : m'.isStarted with _ | _
  · rw [start_of_stopped hs, start_of_stopped (h.isStarted.trans hs)]
    exact ⟨rfl, h.renewed _⟩
  · rw [start_of_started hs, start_of_started (h.isStarted.trans hs)]
    exact ⟨rfl, h⟩

lemma Raised.stop (h : m.Raised d e m') : m.stop.1 = m'.stop.1 ∧ m.stop.2.Raised d e m'.stop.2 := by
  rcases hs : m'.isStarted with _ | _
  · rw [stop_of_stopped hs, stop_of_stopped (h.isStarted.trans hs)]
    exact ⟨rfl, h⟩
  · rw [stop_of_started hs, stop_of_started (h.isStarted.trans hs)]
    exact ⟨rfl, h.renewed _⟩

lemma Raised.report (h : m.Raised d e m') (r : Renderer) (now : Instant) :
    (m.report r now).1 = (m'.report r now).1 ∧
      (m.report r now).2.Raised d e (m'.report r now).2 := by
  obtain ⟨hreports, hkept⟩ := Invocation.reports_renumber r now m'.registry h.kept
  rw [← h.registry] at hreports hkept
  have hstart : m.startedAt = m'.startedAt := by
    rw [startedAt, startedAt, h.startMillis]
  refine ⟨?_, h.epoch, h.startMillis, h.invocations, h.errors, ?_, h.nextSerial, hkept⟩
  · simp only [Monitor.report, hreports, hstart, h.invocations, h.errors]
  · rw [report_snd, report_snd]
    simp only [h.registry, Registry.filter_renumber]

end Monitor
/-! ### Threads -/

namespace Watch

variable {d e : Nat} {own : Nat → Nat} {w v : Watch} {t : Thread} {now : Instant}
  {service : ServiceDescriptor} {pipeline : Pipeline} {state : Except Envelope InvokeState}
  {n : Nat} {failed : Bool} {ks ls : List (Option Ticket)}

/-- The calls of the one thread in `ks` are those in `ls` and, below, calls of epochs before
`epoch`. -/
def Above (d e epoch : Nat) (ks ls : List (Option Ticket)) : Prop :=
  ∃ old, ks = ls.map (Option.map (Ticket.renumber d e)) ++ old ∧
    ∀ k, some k ∈ old → k.epoch < epoch

lemma Above.mono {epoch epoch' : Nat} (h : Above d e epoch ks ls) (he : epoch ≤ epoch') :
    Above d e epoch' ks ls := by
  obtain ⟨old, hks, hold⟩ := h
  exact ⟨old, hks, fun k hk => Nat.lt_of_lt_of_le (hold k hk) he⟩

/-- The watch `w` some time after the cut, and `v`, which was new at the cut. -/
structure Follows (d e : Nat) (own : Nat → Nat) (w v : Watch) : Prop where
  monitor : w.monitor.Raised d e v.monitor
  renderer : w.renderer = v.renderer
  unfinished : ∀ n, Above d e w.monitor.epoch (w.unfinished n) (v.unfinished n)
  own : ∀ n, own n = (v.unfinished n).length

lemma Follows.of_monitor {m m' : Monitor} (h : Follows d e own w v) (hm : m.Raised d e m')
    (he : w.monitor.epoch ≤ m.epoch) :
    Follows d e own { w with monitor := m } { v with monitor := m' } :=
  ⟨hm, h.renderer, fun n => (h.unfinished n).mono he, h.own⟩

/-- What happens to the calls of one thread leaves those of the others. -/
lemma Follows.of_thread {m m' : Monitor} (h : Follows d e own w v) (hm : m.Raised d e m')
    (he : m.epoch = w.monitor.epoch) (hks : Above d e m.epoch ks ls) :
    Follows d e (setAt own n ls.length)
      { w with monitor := m, unfinished := setAt w.unfinished n ks }
      { v with monitor := m', unfinished := setAt v.unfinished n ls } := by
  refine ⟨hm, h.renderer, fun i => ?_, fun i => ?_⟩
  · by_cases hi : i = n
    · subst hi
      simpa using hks
    · simpa [setAt_of_ne _ _ hi, he] using h.unfinished i
  · by_cases hi : i = n
    · subst hi
      simp
    · simpa [setAt_of_ne _ _ hi] using h.own i

lemma Follows.enter (h : Follows d e own w v) :
    Follows d e (setAt own t.number (own t.number + 1)) (w.enter t service pipeline state now)
      (v.enter t service pipeline state now) := by
  obtain ⟨hticket, hm⟩ := h.monitor.register t now service pipeline state
  set r := w.monitor.register t now service pipeline state
  set r' := v.monitor.register t now service pipeline state
  have he : r.2.epoch = w.monitor.epoch := Monitor.epoch_register
  have habove : Above d e r.2.epoch (r.1 :: w.unfinished t.number)
      (r'.1 :: v.unfinished t.number) := by
    obtain ⟨old, hks, hold⟩ := h.unfinished t.number
    refine ⟨old, ?_, fun k hk => he ▸ hold k hk⟩
    rw [hticket, hks]
    rfl
  rw [h.own]
  exact h.of_thread hm he habove

/-- The exit of a call that began after the cut. -/
lemma Follows.leave {k : Option Ticket} (h : Follows d e own w v) (hv : v.unfinished n = k :: ls) :
    Follows d e (setAt own n ls.length) (w.leave n failed) (v.leave n failed) := by
  obtain ⟨old, hks, hold⟩ := h.unfinished n
  rw [hv] at hks
  rw [Watch.leave, hks, Watch.leave, hv]
  refine h.of_thread (h.monitor.complete k failed) Monitor.epoch_complete ⟨old, rfl, fun k hk => ?_⟩
  rw [Monitor.epoch_complete]
  exact hold k hk

/-- The exit of a call from before the cut, which `v` is spared. -/
lemma Follows.leave_older (h : Follows d e own w v) (hv : v.unfinished n = []) :
    Follows d e own (w.leave n failed) v := by
  obtain ⟨old, hks, hold⟩ := h.unfinished n
  rw [hv] at hks
  rcases old with _ | ⟨k, old⟩
  · rw [Watch.leave, hks]
    exact h
  have hm : w.monitor.complete k failed = w.monitor :=
    Monitor.complete_of_lt fun t ht => hold t (ht ▸ List.mem_cons_self)
  rw [Watch.leave, hks]
  simp only [List.map_nil, List.nil_append, hm]
  refine ⟨h.monitor, h.renderer, fun i => ?_, h.own⟩
  by_cases hi : i = n
  · subst hi
    refine ⟨old, ?_, fun t ht => hold t (List.mem_cons_of_mem _ ht)⟩
    simp [hv]
  · simpa [setAt_of_ne _ _ hi] using h.unfinished i

lemma Follows.start (h : Follows d e own w v) (now : Instant) :
    (w.start now).1 = (v.start now).1 ∧ Follows d e own (w.start now).2 (v.start now).2 := by
  obtain ⟨hb, hm⟩ := h.monitor.start now
  exact ⟨hb, h.of_monitor hm Monitor.epoch_le_start⟩

lemma Follows.stop (h : Follows d e own w v) :
    w.stop.1 = v.stop.1 ∧ Follows d e own w.stop.2 v.stop.2 := by
  obtain ⟨hb, hm⟩ := h.monitor.stop
  exact ⟨hb, h.of_monitor hm Monitor.epoch_le_stop⟩

lemma Follows.report (h : Follows d e own w v) (now : Instant) :
    (w.report now).1 = (v.report now).1 ∧ Follows d e own (w.report now).2 (v.report now).2 := by
  obtain ⟨hr, hm⟩ := h.monitor.report v.renderer now
  have hw : w.report now = ((w.monitor.report v.renderer now).1,
      { w with monitor := (w.monitor.report v.renderer now).2 }) := by
    rw [Watch.report, h.renderer]
  rw [hw]
  exact ⟨hr, h.of_monitor hm (Nat.le_refl _)⟩

/-! ### Runs -/

lemma heard_cons {event : Event} {es fs : List Event} (h : (w.react event).1 = (v.react event).1)
    (hs : heard (w.step event) es = heard (v.step event) fs) :
    heard w (event :: es) = heard v (event :: fs) := by
  rw [heard, heard, h, hs]

/-- By induction on the events: an exit is spared `v` exactly if `v` has no unfinished call of
that thread. -/
lemma Follows.run (h : Follows d e own w v) (es : List Event) :
    heard w es = heard v (withoutOlderExits own es) ∧
      ∃ own', Follows d e own' (run w es) (run v (withoutOlderExits own es)) := by
  induction es generalizing own w v with
  | nil => exact ⟨rfl, own, h⟩
  | cons event es ih =>
    cases event with
    | enter t service pipeline state now => exact ih h.enter
    | leave n failed =>
      have hown := h.own n
      rcases hv : v.unfinished n with _ | ⟨k, ls⟩
      · rw [hv] at hown
        rw [withoutOlderExits, hown]
        exact ih (h.leave_older hv)
      · rw [hv] at hown
        rw [withoutOlderExits, hown]
        exact ih (h.leave hv)
    | start now =>
      obtain ⟨hb, hs⟩ := h.start now
      obtain ⟨hheard, hrun⟩ := ih hs
      exact ⟨heard_cons (congrArg Answer.changed hb) hheard, hrun⟩
    | stop =>
      obtain ⟨hb, hs⟩ := h.stop
      obtain ⟨hheard, hrun⟩ := ih hs
      exact ⟨heard_cons (congrArg Answer.changed hb) hheard, hrun⟩
    | report now =>
      obtain ⟨hr, hs⟩ := h.report now
      obtain ⟨hheard, hrun⟩ := ih hs
      exact ⟨heard_cons (congrArg Answer.reported hr) hheard, hrun⟩

/-! ### The cut -/

/-- At the cut all unfinished calls are older. -/
lemma Numbered.follows_renewed (h : w.Numbered) {epoch : Nat}
    (he : w.monitor.epoch + 1 = epoch + e) (s : Option Int) :
    Follows w.monitor.nextSerial e (fun _ => 0)
      { w with monitor := { w.monitor.renewed with startMillis := s } }
      ⟨{ Monitor.init with epoch := epoch, startMillis := s }, w.renderer, fun _ => []⟩ where
  monitor := h.monitor.raised_renewed he s
  renderer := rfl
  unfinished n := ⟨w.unfinished n, rfl, fun k hk => Nat.lt_succ_of_le (h.epoch_le n k hk)⟩
  own _ := rfl

lemma Follows.resembles (h : Follows d e (fun _ => 0) w v) : w.Resembles v := by
  intro es
  obtain ⟨hheard, own, hrun⟩ := h.run es
  exact ⟨hheard, hrun.monitor.alike⟩

lemma start_resembles (r : Renderer) (h : w.Numbered) (hr : w.renderer = r)
    (hs : (w.start now).1 = true) : (w.start now).2.Resembles ((init r).start now).2 := by
  rcases w.monitor.start_cases now with hm | hm
  · simp [Watch.start, hm] at hs
  · rw [Watch.start, hm, ← hr]
    exact (h.follows_renewed (Nat.add_comm _ _) _).resembles

lemma stop_resembles (r : Renderer) (h : w.Numbered) (hr : w.renderer = r)
    (hs : w.stop.1 = true) : w.stop.2.Resembles (init r) := by
  rcases w.monitor.stop_cases with hm | hm
  · simp [Watch.stop, hm] at hs
  · rw [Watch.stop, hm, ← hr]
    exact (h.follows_renewed (Nat.zero_add _).symm _).resembles

end Watch

/-- **A restart isolates.** After every run, a start that takes effect makes the monitor like a
new one that is started then, and a stop that takes effect makes it like a new one, whatever
calls are unfinished and whatever comes. A start while started and a stop while stopped change
nothing. -/
theorem restart_isolates (r : Renderer) (past : List Event) (now : Instant) :
    let w := Watch.run (.init r) past
    ((w.start now).1 = true → (w.start now).2.Resembles ((Watch.init r).start now).2) ∧
      (w.stop.1 = true → w.stop.2.Resembles (.init r)) ∧
      (w.monitor.isStarted = true → w.start now = (false, w)) ∧
      (w.monitor.isStarted = false → w.stop = (false, w)) := by
  intro w
  have hn : w.Numbered := Watch.numbered_run r past
  have hr : w.renderer = r := Watch.renderer_run (.init r) past
  refine ⟨Watch.start_resembles r hn hr, Watch.stop_resembles r hn hr, fun hs => ?_, fun hs => ?_⟩
  · rw [Watch.start, Monitor.start_of_started hs]
  · rw [Watch.stop, Monitor.stop_of_stopped hs]

/-- A stop and then a start, both while a call is unfinished. -/
theorem restart_isolates_open_call :
    let past := Event.start .epoch :: Demo.entries 1 .epoch 0
    let w := Watch.run (.init .refusing) past
    let u := Watch.run (.init .refusing) (past ++ [.stop])
    (u.unfinished 1).length = 1 ∧ w.stop.1 = true ∧ w.stop.2.Resembles (.init .refusing) ∧
      (u.start .epoch).1 = true ∧
      (u.start .epoch).2.Resembles ((Watch.init .refusing).start .epoch).2 := by
  intro past w u
  have hw := restart_isolates .refusing past .epoch
  have hu := restart_isolates .refusing (past ++ [.stop]) .epoch
  exact ⟨rfl, rfl, hw.2.1 rfl, rfl, hu.1 rfl⟩

end CallWatch
