import CallWatch.Proofs.Demo.Progress
import CallWatch.Proofs.Demo.Sequence
import CallWatch.Proofs.Text.Numerals

/-!
The demo sees every worker at full depth, and its books balance.

The report is taken when the frames in the registry are those of all levels of all workers. So it
shows them all, and what is counted afterwards is counted for these frames.
-/

namespace CallWatch

namespace Demo

variable {o : DemoOptions} {fixed : Option InvokeState} {e a b worker : Nat}
  {m : Machine Envelope} {w : Watch}

/-! ### What a report shows -/

/-- A worker's call at a level, as it is reported. -/
structure ShownCall (fixed : Option InvokeState) (worker level : Nat) (p : FrameReport) : Prop where
  service : p.service.text = "tundra.demo:level" ++ Text.Numeral.text level
  package : p.package = package
  pipeline : p.pipeline.entries = [("worker", .nat worker), ("level", .nat level)]
  session : p.session = (fixed.getD (state worker)).session
  user : p.user = (fixed.getD (state worker)).user

/-- A worker with all its calls, the innermost first, as it is reported. -/
structure Shown (o : DemoOptions) (fixed : Option InvokeState) (worker : Nat)
    (p : InvocationReport) : Prop where
  name : p.threadName = "demo-worker-" ++ Text.Numeral.text worker
  calls : List.Forall₂ (ShownCall fixed worker) (levels o.depth) p.callstack

lemma Called.shown {r : Renderer} {now : Instant} {f : Frame} {q : FrameReport} {level : Nat}
    (h : Called fixed worker level f) (hq : FrameReport.Tells r now f q) :
    ShownCall fixed worker level q where
  service := by
    have hstem : "tundra.demo" ++ ":" ++ "level" = "tundra.demo:level" := rfl
    rw [hq.service, h.service, ← hstem, String.append_assoc]
    rfl
  package := by rw [hq.package, h.service]; rfl
  pipeline := by rw [hq.pipeline, h.pipeline]; rfl
  session := by rw [hq.session, h.state]
  user := by rw [hq.user, h.state]

lemma shown_calls {r : Renderer} {now : Instant} {fs : List Frame} {ps : List FrameReport}
    {ls : List Nat} (hf : List.Forall₂ (Called fixed worker) ls fs)
    (hp : List.Forall₂ (FrameReport.Tells r now) fs ps) :
    List.Forall₂ (ShownCall fixed worker) ls ps := by
  induction hf generalizing ps with
  | nil =>
    cases hp
    exact .nil
  | cons hcalled _ ih =>
    obtain _ | ⟨htells, hp⟩ := hp
    exact .cons (hcalled.shown htells) (ih hp)

/-! ### The balance -/

/-- What a performance with the member `mem` comes to; afterwards it is `left`. -/
structure Balanced (o : DemoOptions) (mem : Member) (out : DemoOutcome) (left : Member) :
    Prop where
  /-- Each worker is listed once, with all its calls. -/
  current : ∃ workers, workers.Perm (List.range o.threads) ∧
    List.Forall₂ (Shown o mem.fixed) workers out.report.current
  currentLength : out.report.currentLength = o.threads
  names_nodup : (out.report.current.map InvocationReport.threadName).Nodup
  registry : left.watch.monitor.registry = []
  failed : out.failed = if o.fail then o.threads else 0
  ended : out.succeeded + out.failed = o.threads
  counted : out.invocations = left.watch.monitor.invocations ∧
    out.errors = left.watch.monitor.errors
  invocations : out.invocations = out.report.invocations
  errors : out.errors = out.report.errors + if o.fail then o.threads * o.depth else 0
  /-- A monitor that was stopped counts nothing else. -/
  fresh : mem.watch.monitor.isStarted = false → out.invocations = o.threads * o.depth ∧
    out.errors = if o.fail then o.threads * o.depth else 0

lemma depth_pos_of_outside? (h : o.outside? = none) : 0 < o.depth := by
  simp only [DemoOptions.outside?, Option.map_eq_none_iff, List.find?_eq_none] at h
  have hdepth := h .depth (by simp)
  rw [Bool.or_eq_true_iff, decide_eq_true_iff, not_or] at hdepth
  exact Nat.pos_of_ne_zero hdepth.1

/-- The workers in the order in which a report lists them. -/
lemma Coming.shown (h : Coming o fixed e a b m w)
    (hready : ∀ worker < o.threads, Ready o m worker) (hdepth : 0 < o.depth) (later : Instant) :
    ∃ workers, workers.Perm (List.range o.threads) ∧
      List.Forall₂ (Shown o fixed) workers (w.report later).1.current := by
  obtain ⟨is, hperm, htells⟩ := (h.observed.wellKept.tells_report later).current
  refine ⟨is.map fun i => i.thread.number - 1, ?_, ?_⟩
  · have hnumbers := ((hperm.map _).trans (h.numbers hready hdepth)).map (· - 1)
    simpa [thread, Function.comp_def] using hnumbers
  · rw [List.forall₂_map_left_iff]
    have hentry : ∀ i ∈ is, ∃ worker, i.thread = thread worker ∧
        List.Forall₂ (Called fixed worker) (levels o.depth) i.frames := by
      intro i hi
      obtain ⟨worker, -, hentry⟩ := h.entry hready (hperm.mem_iff.mp hi)
      exact ⟨worker, hentry⟩
    refine ((List.forall₂_and_left _ _).mpr ⟨hentry, htells⟩).imp ?_
    rintro i p ⟨⟨worker, hthread, hframes⟩, hp⟩
    rw [hthread]
    refine ⟨?_, shown_calls hframes hp.callstack⟩
    rw [hp.threadName, hthread]
    rfl

lemma Shown.names_nodup {workers : List Nat} {ps : List InvocationReport}
    (h : List.Forall₂ (Shown o fixed) workers ps) (hperm : workers.Perm (List.range o.threads)) :
    (ps.map InvocationReport.threadName).Nodup := by
  have hnames : ps.map InvocationReport.threadName =
      workers.map fun worker => "demo-worker-" ++ Text.Numeral.text worker := by
    rw [← List.forall₂_eq_eq_eq, List.forall₂_map_left_iff, List.forall₂_map_right_iff]
    exact h.flip.imp fun _ _ hshown => hshown.name
  rw [hnames]
  refine (hperm.nodup_iff.mpr List.nodup_range).map fun a b hab => ?_
  exact Text.Numeral.text_injective (String.append_right_inj _ |>.mp hab)

lemma Performed.balanced {mem left : Member} {out : DemoOutcome} {now later : Instant}
    {arriving leaving : List (Nat × Instant)}
    (h : Performed o mem now later arriving leaving out left) (hdepth : 0 < o.depth)
    (hw : mem.watch.Records fun _ => []) (hkept : mem.watch.monitor.WellKept mem.watch.renderer) :
    Balanced o mem out left := by
  obtain ⟨w, fixed⟩ := mem
  cases h with
  | @intro arrived gone report host outcomes left harrived hready hreport hgone houtcomes hleft =>
  obtain ⟨w', hgate⟩ := harrived ▸ (coming_crew hw hkept fixed now).turns arriving
  obtain ⟨host', hreport', hobserved⟩ := hgate.observed.report later
  -- the report of the performance is the one that the watch at the gate gives
  obtain ⟨rfl, rfl⟩ := Prod.mk.inj (Option.some.inj (hreport'.symm.trans hreport))
  obtain ⟨w'', hgoing⟩ := hgone ▸ (hgate.going hready hobserved).turns leaving
  obtain ⟨rfl, hregistry, herrors⟩ := hgoing.closed houtcomes
  obtain rfl : left = ⟨w'', fixed⟩ := by
    rw [hgoing.observed.attended.members] at hleft
    exact (List.singleton_inj.mp hleft).symm
  obtain ⟨workers, hperm, hshown⟩ := hgate.shown hready hdepth later
  have hframes := hgate.frames_length hready hdepth
  have hinvocations : w''.monitor.invocations = (w'.report later).1.invocations :=
    hgoing.invocations
  rw [← hgate.errors, hframes] at herrors
  refine {
    current := ⟨workers, hperm, hshown⟩
    currentLength := ?_
    names_nodup := Shown.names_nodup hshown hperm
    registry := hregistry
    failed := countP_failed _ _
    ended := ?_
    counted := ⟨rfl, rfl⟩
    invocations := hinvocations
    errors := herrors
    fresh := fun hstopped => ?_ }
  · calc (w'.report later).1.current.length
        = workers.length := hshown.length_eq.symm
      _ = o.threads := by rw [hperm.length_eq, List.length_range]
  · calc _ = (List.replicate o.threads (outcome o.fail)).length :=
          Nat.sub_add_cancel List.countP_le_length
      _ = o.threads := List.length_replicate
  · have hstart : (w.start now).2.monitor.invocations = 0 ∧ (w.start now).2.monitor.errors = 0 := by
      rw [Watch.start, Monitor.start_of_stopped hstopped]
      exact ⟨rfl, rfl⟩
    have hcalls : w'.monitor.invocations = o.threads * o.depth := by
      rw [hgate.invocations, hstart.1, Nat.zero_add, hframes]
    have hfailures : w'.monitor.errors = 0 := hgate.errors.trans hstart.2
    refine ⟨hinvocations.trans hcalls, herrors.trans ?_⟩
    rw [hfailures, Nat.zero_add]

end Demo

/-- **The demo sees every worker at full depth, and its books balance.** Take a monitor after any
run that has left no call unfinished, and options in their ranges. The demo ends, and it is the
performance in which the workers take their turns one after the other. In whatever order they come
in, and go out after the report, there is a performance as soon as each of them gets one turn more
than there are levels. And of every performance it holds that the report lists every worker once,
with a frame for each of its levels, the innermost first, which shows its service, its pipeline and
the state that the monitor found on the thread; that afterwards the registry is empty; that every
worker has failed if that was asked for and none otherwise; and that since the report no call has
been counted, and as many failures as there were frames, or none. -/
theorem demo_balances (r : Renderer) (es : List Event)
    (hquiet : ∀ n, (Watch.run (.init r) es).unfinished n = []) (o : DemoOptions)
    (ho : o.outside? = none) (now later : Instant) :
    let w := Watch.run (.init r) es
    (∃ out left, Demo.checkedRun o now later w = .ok (out, left) ∧
      Demo.Performed o ⟨w, none⟩ now later (Demo.inTurn o now o.threads)
        (Demo.inTurn o later o.threads) out ⟨left, none⟩) ∧
    ∀ fixed arriving leaving,
      ((∀ worker < o.threads, o.depth < Demo.turnsOf worker arriving ∧
          o.depth < Demo.turnsOf worker leaving) →
        ∃ out left, Demo.Performed o ⟨w, fixed⟩ now later arriving leaving out left) ∧
      ∀ out left, Demo.Performed o ⟨w, fixed⟩ now later arriving leaving out left →
        Demo.Balanced o ⟨w, fixed⟩ out left := by
  intro w
  have hw := Watch.records_of_quiet hquiet
  have hkept : w.monitor.WellKept w.renderer := by
    rw [Watch.renderer_run]
    exact Watch.wellKept_run (w := .init r) (.init r) es
  refine ⟨⟨_, _, ?_, Demo.performed_run hw hkept o now later⟩, fun fixed arriving leaving => ?_⟩
  · rw [Demo.checkedRun, ho]
  constructor
  · intro hturns
    exact Demo.exists_performed hw hkept fixed now later (fun k hk => (hturns k hk).1)
      fun k hk => (hturns k hk).2
  · intro out left h
    exact h.balanced (Demo.depth_pos_of_outside? ho) hw hkept

/-- A monitor that has counted a failed call before, with two workers who fail at level two: one
after the other, and turn by turn. -/
theorem demo_balances_used_monitor :
    let es := [.start .epoch, .enter (Demo.thread 0) (Demo.service 1) .empty (.ok (Demo.state 0))
      .epoch, .leave 1 true]
    let w := Watch.run (.init .refusing) es
    let o : DemoOptions := ⟨2, 2, 0, true⟩
    let mixed := [0, 1, 0, 1, 1, 0].map fun worker => (worker, Instant.epoch)
    (∀ n, w.unfinished n = []) ∧ o.outside? = none ∧
      (∀ worker < o.threads, o.depth < Demo.turnsOf worker mixed) ∧
      (∃ out left, Demo.checkedRun o .epoch .epoch w = .ok (out, left) ∧
        Demo.Balanced o ⟨w, none⟩ out ⟨left, none⟩ ∧ out.report.errors = 1 ∧ out.errors = 5) ∧
      ∃ out left, Demo.Performed o ⟨w, none⟩ .epoch .epoch mixed mixed out left ∧
        Demo.Balanced o ⟨w, none⟩ out left := by
  intro es w o mixed
  have hquiet : ∀ n, w.unfinished n = [] := by
    rintro (_ | _ | n) <;> rfl
  have hturns : ∀ worker < o.threads, o.depth < Demo.turnsOf worker mixed := by decide
  obtain ⟨⟨out, left, hrun, hperformed⟩, hall⟩ :=
    demo_balances .refusing es hquiet o rfl .epoch .epoch
  have hbooks := (hall none _ _).2 out ⟨left, none⟩ hperformed
  have hreport : out.report.errors = 1 := by
    obtain rfl := (Prod.mk.inj (Except.ok.inj hrun)).1
    rfl
  have herrors : out.errors = 5 := by
    rw [hbooks.errors, hreport]
    rfl
  obtain ⟨hexists, hbalanced⟩ := hall none mixed mixed
  obtain ⟨out', left', hmixed⟩ := hexists fun k hk => ⟨hturns k hk, hturns k hk⟩
  exact ⟨hquiet, rfl, hturns, ⟨out, left, hrun, hbooks, hreport, herrors⟩, out', left', hmixed,
    hbalanced out' left' hmixed⟩

end CallWatch
