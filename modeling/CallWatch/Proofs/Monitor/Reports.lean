import CallWatch.Demo
import CallWatch.Proofs.Monitor.Exactness
import CallWatch.Proofs.Time.Elapsed
import Mathlib.Data.List.Perm.Basic
import Mathlib.Data.List.Sort

/-!
Reports say exactly what the registry holds.

A report goes through the registry once and sorts what it finds. The HTML of a frame is read on
the way, and what is kept under the frame's serial number is the rendering of the pipeline that
the frame holds, since no two frames have the same number. So a report does not depend on what
has been read before.
-/

namespace CallWatch

open Registry

/-! ### The HTML that is kept -/

/-- Whatever is kept for the frames in `fs` is the rendering of their pipelines. -/
def Renderings.Right (r : Renderer) (fs : List Frame) (kept : Renderings) : Prop :=
  ∀ f ∈ fs, ∀ h, kept.lookup f.serial = some h → h = (r f.pipeline).toOption

namespace Renderings

variable {r : Renderer} {f : Frame} {fs fs' : List Frame} {kept : Renderings}

lemma Right.mono (h : kept.Right r fs) (hs : ∀ f ∈ fs', f ∈ fs) : kept.Right r fs' :=
  fun f hf => h f (hs f hf)

lemma lookup_read (r : Renderer) (f : Frame) (kept : Renderings) (s : Nat) :
    (kept.read r f).2.lookup s =
      if s = f.serial then some (kept.read r f).1 else kept.lookup s := by
  unfold read
  split
  · rename_i h hk
    split_ifs with hs
    · rw [hs, hk]
    · rfl
  · by_cases hs : s = f.serial
    · simp [hs]
    · simp [hs, List.lookup_cons, beq_false_of_ne hs]

/-- A frame is read right, whether it has been read before or not, and what is kept then is
right. -/
lemma Right.read (h : kept.Right r fs) (hn : (fs.map Frame.serial).Nodup) (hf : f ∈ fs) :
    (kept.read r f).1 = (r f.pipeline).toOption ∧ Right r fs (kept.read r f).2 := by
  have hfst : (kept.read r f).1 = (r f.pipeline).toOption := by
    unfold Renderings.read
    split
    · rename_i html hk
      exact h f hf html hk
    · rfl
  refine ⟨hfst, fun g hg html hk => ?_⟩
  rw [lookup_read] at hk
  split_ifs at hk with hs
  · -- the frame with the number of the one that was read is that frame
    obtain rfl := List.inj_on_of_nodup_map hn hg hf hs
    exact (Option.some.inj hk).symm.trans hfst
  · exact h g hg html hk

end Renderings

/-! ### What a report says -/

/-- A frame's part of a report. -/
structure FrameReport.Tells (r : Renderer) (now : Instant) (f : Frame) (p : FrameReport) :
    Prop where
  service : p.service = f.service.name
  package : p.package = f.service.package
  pipeline : p.pipeline = f.pipeline
  pipelineLength : p.pipelineLength = f.pipeline.entries.length
  html : p.html = (r f.pipeline).toOption
  startedAt : p.startedAt = f.startedAt
  elapsed : (p.elapsed.total : Int) = max 0 (Duration.signedNanos f.startedAt now)
  session : p.session = f.state.session
  user : p.user = f.state.user

/-- A thread's part of a report. -/
structure InvocationReport.Tells (r : Renderer) (now : Instant) (i : Invocation)
    (p : InvocationReport) : Prop where
  threadId : p.threadId = i.thread.number
  threadName : p.threadName = i.thread.name
  startedAt : i.frames.getLast?.map Frame.startedAt = some p.startedAt
  elapsed : (p.elapsed.total : Int) = max 0 (Duration.signedNanos p.startedAt now)
  callstack : List.Forall₂ (FrameReport.Tells r now) i.frames p.callstack
  callstackLength : p.callstackLength = p.callstack.length

/-- A frame as it is reported, whatever has been read before. -/
def Frame.told (r : Renderer) (now : Instant) (f : Frame) : FrameReport :=
  f.report now (r f.pipeline).toOption

/-- A thread as it is reported, if it has a call. -/
def Invocation.told (r : Renderer) (now : Instant) (i : Invocation) : Option InvocationReport :=
  i.startedAt.map fun start => {
    threadId := i.thread.number
    threadName := i.thread.name
    startedAt := start
    elapsed := .between start now
    callstack := i.frames.map (Frame.told r now)
    callstackLength := (i.frames.map (Frame.told r now)).length }

section

variable {r : Renderer} {now : Instant} {fs gs : List Frame} {is : Registry} {i : Invocation}
  {kept : Renderings}

lemma Frame.tells_told (f : Frame) : FrameReport.Tells r now f (f.told r now) :=
  ⟨rfl, rfl, rfl, rfl, rfl, rfl, Duration.total_between _ _, rfl, rfl⟩

lemma Invocation.tells_told (h : i.frames ≠ []) :
    ∃ p, i.told r now = some p ∧ InvocationReport.Tells r now i p := by
  have hstart : i.startedAt = some (i.frames.getLast h).startedAt := by
    rw [startedAt, List.getLast?_eq_some_getLast h, Option.map_some]
  refine ⟨_, by rw [told, hstart, Option.map_some], ?_⟩
  refine ⟨rfl, rfl, hstart, Duration.total_between _ _, ?_, rfl⟩
  rw [List.forall₂_map_right_iff, List.forall₂_same]
  exact fun f _ => f.tells_told

/-- No entry is without a call, so every one is told. -/
lemma Invocation.tells_filterMap (h : ∀ i ∈ is, i.frames ≠ []) :
    List.Forall₂ (InvocationReport.Tells r now) is (is.filterMap (told r now)) := by
  induction is with
  | nil => exact .nil
  | cons i is ih =>
    obtain ⟨hi, his⟩ := List.forall_mem_cons.mp h
    obtain ⟨p, hp, htells⟩ := tells_told hi
    rw [List.filterMap_cons_some hp]
    exact .cons htells (ih his)

lemma Frame.reports_of_right (now : Instant) (h : kept.Right r fs)
    (hn : (fs.map Frame.serial).Nodup) (hs : ∀ g ∈ gs, g ∈ fs) :
    (reports r now gs kept).1 = gs.map (told r now) ∧ (reports r now gs kept).2.Right r fs := by
  induction gs generalizing kept with
  | nil => exact ⟨rfl, h⟩
  | cons g gs ih =>
    obtain ⟨hg, hgs⟩ := List.forall_mem_cons.mp hs
    obtain ⟨hhtml, hread⟩ := h.read hn hg
    obtain ⟨hrest, hright⟩ := ih hread hgs
    refine ⟨?_, hright⟩
    rw [reports, hhtml, hrest, List.map_cons, told]

lemma Invocation.report_of_right (now : Instant) (h : kept.Right r fs)
    (hn : (fs.map Frame.serial).Nodup) (hs : ∀ g ∈ i.frames, g ∈ fs) :
    (i.report r now kept).1 = i.told r now ∧ (i.report r now kept).2.Right r fs := by
  obtain ⟨htold, hright⟩ := Frame.reports_of_right now h hn hs
  rw [report, told]
  rcases i.startedAt with _ | start
  · exact ⟨rfl, h⟩
  · simp only [htold, Option.map_some, true_and]
    exact hright

lemma Invocation.reports_of_right (now : Instant) (h : kept.Right r fs)
    (hn : (fs.map Frame.serial).Nodup) (hs : ∀ g ∈ is.frames, g ∈ fs) :
    (reports r now is kept).1 = is.filterMap (told r now) ∧
      (reports r now is kept).2.Right r fs := by
  induction is generalizing kept with
  | nil => exact ⟨rfl, h⟩
  | cons i is ih =>
    have hi : ∀ g ∈ i.frames, g ∈ fs := fun g hg => hs g (List.mem_append_left _ hg)
    have his : ∀ g ∈ Registry.frames is, g ∈ fs := fun g hg => hs g (List.mem_append_right _ hg)
    obtain ⟨htold, hread⟩ := Invocation.report_of_right now h hn hi
    obtain ⟨hrest, hright⟩ := ih hread his
    refine ⟨?_, hright⟩
    rw [reports, htold, hrest, List.filterMap_cons]
    cases i.told r now <;> rfl

end

/-! ### Every run -/

/-- What the operations keep of a monitor, and what reports of it rely on. -/
structure Monitor.WellKept (r : Renderer) (m : Monitor) : Prop where
  sound : m.registry.Sound
  numbered : m.Numbered
  right : m.kept.Right r m.registry.frames

namespace Monitor

variable {r : Renderer} {m : Monitor} {t : Thread} {now : Instant} {service : ServiceDescriptor}
  {pipeline : Pipeline} {state : Except Envelope InvokeState} {k : Option Ticket} {failed : Bool}

lemma WellKept.init (r : Renderer) : Monitor.init.WellKept r :=
  ⟨sound_nil, numbered_init, by simp [Monitor.init, Renderings.Right]⟩

lemma WellKept.renewed (h : m.WellKept r) (s : Option Int) :
    WellKept r { m.renewed with startMillis := s } :=
  ⟨sound_nil, h.numbered.renewed s, by simp [Monitor.renewed, Renderings.Right]⟩

/-- Nothing is kept for a frame that is new. -/
lemma WellKept.right_push (h : m.WellKept r) {f : Frame} (hf : f.serial = m.nextSerial) :
    m.kept.Right r (m.registry.push t f).frames := by
  intro g hg html hk
  rcases List.mem_cons.mp (frames_push.mem_iff.mp hg) with rfl | hg
  · obtain ⟨before, after, hkept, -⟩ := List.lookup_eq_some_iff.mp hk
    have hlt := h.numbered.kept_lt (g.serial, html) (by simp [hkept])
    exact absurd hlt (by simp [hf])
  · exact h.right g hg html hk

lemma WellKept.register (h : m.WellKept r) :
    (m.register t now service pipeline state).2.WellKept r := by
  refine ⟨?_, h.numbered.register, ?_⟩ <;>
    rcases m.register_cases t now service pipeline state with hr | ⟨st, hr⟩ <;> rw [hr]
  · exact h.sound
  · exact h.sound.push _ _
  · exact h.right
  · exact h.right_push rfl

lemma WellKept.complete (h : m.WellKept r) : (m.complete k failed).WellKept r := by
  refine ⟨?_, h.numbered.complete, ?_⟩ <;>
    rcases m.complete_cases k failed with hc | ⟨n, s, hc⟩ <;> rw [hc]
  · exact h.sound
  · exact h.sound.pop _ _
  · exact h.right
  · exact h.right.mono fun f hf => frames_pop_sublist.subset hf

lemma WellKept.start (h : m.WellKept r) : (m.start now).2.WellKept r := by
  rcases m.start_cases now with hs | hs
  · rw [hs]
    exact h
  · rw [hs]
    exact h.renewed _

lemma WellKept.stop (h : m.WellKept r) : m.stop.2.WellKept r := by
  rcases m.stop_cases with hs | hs
  · rw [hs]
    exact h
  · rw [hs]
    exact h.renewed _

lemma WellKept.reports (h : m.WellKept r) (now : Instant) :
    (Invocation.reports r now m.registry m.kept).1 = m.registry.filterMap (Invocation.told r now) ∧
      (Invocation.reports r now m.registry m.kept).2.Right r m.registry.frames :=
  Invocation.reports_of_right now h.right h.numbered.serial_nodup fun _ => id

lemma WellKept.report (h : m.WellKept r) : (m.report r now).2.WellKept r := by
  have hn : (m.report r now).2.Numbered := h.numbered.report r
  rw [report_of_sound r h.sound] at hn ⊢
  exact ⟨h.sound, hn, (h.reports now).2⟩

end Monitor

namespace Watch

variable {w : Watch}

lemma wellKept_step (h : w.monitor.WellKept w.renderer) (e : Event) :
    (w.step e).monitor.WellKept w.renderer := by
  cases e with
  | enter t service pipeline state now => exact h.register
  | leave n failed =>
    simp only [step, react, leave]
    split
    · exact h
    · exact h.complete
  | start now => exact h.start
  | stop => exact h.stop
  | report now => exact h.report

lemma wellKept_run (h : w.monitor.WellKept w.renderer) (es : List Event) :
    (run w es).monitor.WellKept w.renderer := by
  induction es generalizing w with
  | nil => exact h
  | cons e es ih =>
    rw [run_cons, ← renderer_step w e]
    exact ih (renderer_step w e ▸ wellKept_step h e)

lemma startMillis_step {x : Int} {e : Event} (h : (w.step e).monitor.startMillis = some x) :
    w.monitor.startMillis = some x ∨ ∃ t, e = .start t ∧ x = max t.millis 1 := by
  rcases w.monitor_step e with hm | ⟨t, service, pipeline, state, st, now, rfl, hm⟩ |
      ⟨m, failed, n, s, rfl, hm⟩ | ⟨now, rfl, hm⟩ | ⟨rfl, hm⟩ | ⟨now, rfl, hm⟩ <;> rw [hm] at h
  · exact .inl h
  · exact .inl h
  · exact .inl h
  · exact .inr ⟨now, rfl, (Option.some.inj h).symm⟩
  · exact nomatch h
  · exact .inl h

/-- What is stored as the time of the start is the reading of a start. -/
lemma startMillis_run {x : Int} (r : Renderer) (es : List Event)
    (h : (run (init r) es).monitor.startMillis = some x) :
    ∃ t, .start t ∈ es ∧ x = max t.millis 1 := by
  induction es using List.reverseRecOn with
  | nil => simp [run, init, Monitor.init] at h
  | append_singleton es e ih =>
    rw [run_append, run_cons, run_nil] at h
    rcases startMillis_step h with h | ⟨t, rfl, hx⟩
    · obtain ⟨t, ht, hx⟩ := ih h
      exact ⟨t, List.mem_append_left _ ht, hx⟩
    · exact ⟨t, by simp, hx⟩

end Watch

/-- A report of a monitor. -/
structure UsageReport.Tells (r : Renderer) (now : Instant) (m : Monitor) (p : UsageReport) :
    Prop where
  /-- Every entry of the registry is listed once. -/
  current : ∃ is, is.Perm m.registry ∧ List.Forall₂ (InvocationReport.Tells r now) is p.current
  threads_nodup : (p.current.map InvocationReport.threadId).Nodup
  ascending : p.current.Pairwise fun a b => a.startedAt.le b.startedAt = true
  currentLength : p.currentLength = p.current.length
  generatedAt : p.generatedAt = now
  invocations : p.invocations = m.invocations
  errors : p.errors = m.errors
  startedAt : p.startedAt = m.startedAt
  started : p.started = p.startedAt.isSome
  uptime : p.uptime.map (fun d => (d.total : Int)) =
    p.startedAt.map fun start => max 0 (Duration.signedNanos start now)

lemma Monitor.WellKept.tells_report {r : Renderer} {m : Monitor} (h : m.WellKept r)
    (now : Instant) : (m.report r now).1.Tells r now m := by
  have htells : List.Forall₂ (InvocationReport.Tells r now) m.registry
      (Invocation.reports r now m.registry m.kept).1 := by
    rw [(h.reports now).1]
    exact Invocation.tells_filterMap h.sound.frames_ne_nil
  set reports := (Invocation.reports r now m.registry m.kept).1
  let le : InvocationReport → InvocationReport → Bool := fun a b => a.startedAt.le b.startedAt
  have htrans : ∀ a b c, le a b = true → le b c = true → le a c = true :=
    fun _ _ _ => Instant.le_trans
  have htotal : ∀ a b, (le a b || le b a) = true := fun _ _ => Instant.le_total _ _
  obtain ⟨is, his, hm⟩ := List.perm_comp_forall₂ (List.mergeSort_perm reports le) htells.flip
  have hthreads : (reports.mergeSort le).map InvocationReport.threadId = numbers is := by
    rw [numbers, ← List.forall₂_eq_eq_eq, List.forall₂_map_left_iff, List.forall₂_map_right_iff]
    exact his.imp fun _ _ h => h.threadId
  refine ⟨⟨is, hm, his.flip⟩, ?_, List.pairwise_mergeSort htrans htotal _, rfl, rfl, rfl, rfl, rfl,
    rfl, ?_⟩
  · exact hthreads ▸ (hm.map _).nodup_iff.mpr h.sound.numbers_nodup
  · simp [Monitor.report, Option.map_map, Function.comp_def, Duration.total_between]

/-- The end of the last year; only a doubled second can go on past it. -/
def Instant.last : Instant := ⟨8210266876799, 999_999_999, by decide⟩

lemma Instant.isSome_ofMillis? {t : Instant} (ht : t.le last = true) :
    (ofMillis? (max t.millis 1)).isSome = true := by
  have hr := t.representable
  have hlast : t.seconds < 8210266876799 ∨ t.seconds = 8210266876799 ∧ t.nanos ≤ 999_999_999 :=
    of_decide_eq_true ht
  rw [ofMillis?, ofUnix?, dif_pos]
  · rfl
  · simp only [Representable, millis] at *
    omega

/-- The value that an object has under a name. -/
def Json.get? : Json → String → Option Json
  | .obj fields, k => Record.get? fields k
  | _, _ => none

/-- What of a report is written depends on what there is to tell. -/
lemma UsageReport.get?_toJson (s : Stamp) (p : UsageReport) :
    (p.toJson s).get? "monitoring.started?" = some (.bool p.started) ∧
      ((p.toJson s).get? "monitoring.start").isSome = p.startedAt.isSome ∧
      ((p.toJson s).get? "monitoring.duration").isSome = p.uptime.isSome := by
  rcases hs : p.startedAt with _ | t <;> rcases hu : p.uptime with _ | d <;>
    simp [toJson, hs, hu, Json.get?, Record.get?]

/-- **Reports are exact.** After every run and for every reading of the clock, a report lists
each entry of the registry once, with its frames from the innermost to the outermost, the
earliest start first; the entries are those of the live calls, and the counters count the calls
of the start that is in effect. Whether the monitor is started is told in three ways, which
agree; they tell what is the case, as long as the time of the start is on the calendar. -/
theorem report_exact (r : Renderer) (es : List Event) (now : Instant) :
    let w := Watch.run (.init r) es
    let j := Journal.ofEvents es
    let p := (w.report now).1
    p.Tells r now w.monitor ∧
      (∀ i ∈ w.monitor.registry, List.Forall₂ Frame.Shows i.frames (j.live i.thread.number)) ∧
      p.invocations = j.visits.countP j.counts ∧
      p.errors = j.visits.countP (fun v => j.counts v && v.ended == some true) ∧
      (∀ s, (p.toJson s).get? "monitoring.started?" = some (.bool p.started) ∧
        ((p.toJson s).get? "monitoring.start").isSome = p.started ∧
        ((p.toJson s).get? "monitoring.duration").isSome = p.started) ∧
      ((∀ t, .start t ∈ es → t.le .last = true) →
        p.started = w.monitor.isStarted ∧ p.started = j.started) := by
  intro w j p
  have hr : w.renderer = r := Watch.renderer_run (.init r) es
  have hkept : w.monitor.WellKept r := Watch.wellKept_run (w := .init r) (.init r) es
  have hc : Coupled w j := coupled_run r es
  have htells : p.Tells r now w.monitor := by
    have := hkept.tells_report now
    rwa [← hr] at this ⊢
  refine ⟨htells, fun i hi => ?_, hc.invocations, hc.errors, fun s => ?_, fun hes => ?_⟩
  · have hshows := hc.shows (hc.matched i.thread.number)
    rwa [hkept.sound.stack_of_mem hi] at hshows
  · obtain ⟨hstarted, hstart, hduration⟩ := UsageReport.get?_toJson s p
    refine ⟨hstarted, hstart.trans htells.started.symm, hduration.trans ?_⟩
    have huptime := congrArg Option.isSome htells.uptime
    rw [Option.isSome_map, Option.isSome_map] at huptime
    exact huptime.trans htells.started.symm
  · have hstarted : p.started = w.monitor.isStarted := by
      rw [htells.started, htells.startedAt, Monitor.startedAt, Monitor.isStarted]
      rcases hs : w.monitor.startMillis with _ | x
      · rfl
      · obtain ⟨t, ht, rfl⟩ := Watch.startMillis_run r es hs
        exact Instant.isSome_ofMillis? (hes t ht)
    exact ⟨hstarted, hstarted.trans hc.started⟩

/-- Two nested calls, reported at a reading before both starts. -/
theorem report_exact_earlier :
    let es := Event.start ⟨60, 0, by decide⟩ :: Demo.entries 2 ⟨70, 0, by decide⟩ 0
    let p := ((Watch.run (.init .refusing) es).report .epoch).1
    (∀ t, .start t ∈ es → t.le .last = true) ∧ p.started = true ∧ p.invocations = 2 ∧
      p.uptime.map Duration.total = some 0 := by
  intro es p
  have hes : ∀ t, .start t ∈ es → t.le .last = true := by
    simp [es, Demo.entries, Instant.le, Instant.last]
  have h := report_exact .refusing es .epoch
  have hstarted := (h.2.2.2.2.2 hes).1
  exact ⟨hes, hstarted, rfl, rfl⟩

end CallWatch
