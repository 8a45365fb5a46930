import CallWatch.Proofs.Demo.Crew

/-!
The books of a crew.

While the workers come in, the monitor has counted one call for every frame that it holds; while
they go out, what it has counted as failed and what it still holds make up one sum. Both are kept
by every turn of every worker. When all are ready, the frames of a worker are those of its levels,
and when all have ended, the monitor holds nothing.
-/

namespace CallWatch

open Registry

namespace Demo

variable {o : DemoOptions} {fixed : Option InvokeState} {e a b worker p : Nat}
  {m m' : Machine Envelope} {w : Watch} {bs : List (Block Envelope)}

/-! ### The frames of a worker -/

/-- The frame of a worker's call at a level. -/
structure Called (fixed : Option InvokeState) (worker level : Nat) (f : Frame) : Prop where
  service : f.service = service level
  pipeline : f.pipeline = pipeline worker level
  state : f.state = fixed.getD (state worker)

/-- What a worker's call at a level has left with the monitor in epoch `e`. -/
def Registered (fixed : Option InvokeState) (e worker level : Nat) (r? : Option Registration) :
    Prop :=
  ∃ r, r? = some r ∧ r.epoch = e ∧ Called fixed worker level r.frame

lemma Nested.registered (h : Nested fixed e worker p bs) :
    List.Forall₂ (Registered fixed e worker) (levels p) (registrations 0 bs) := by
  induction h with
  | scope => exact .nil
  | @call p bs hbs h w hw now ih =>
    have hin : 0 ∈ h.chain.installed := by rw [hw.installed]; exact List.mem_singleton_self 0
    rw [levels, registrations, if_pos hin]
    refine .cons ?_ ih
    have hstate : fixed.or (some (Demo.state worker)) = some (fixed.getD (Demo.state worker)) := by
      cases fixed <;> rfl
    rw [Running.registration?, hw.members, hbs.innermost]
    simp only [List.getElem?_cons_zero, Option.bind_some, Monitor.registration?, hw.started, hstate,
      if_true, Option.map_some]
    exact ⟨_, rfl, hw.epoch, rfl, rfl, rfl⟩

lemma frames_of_registered {ls : List Nat} {rs : List (Option Registration)}
    (h : List.Forall₂ (Registered fixed e worker) ls rs) :
    List.Forall₂ (Called fixed worker) ls (Registration.frames e rs) := by
  induction h with
  | nil => exact .nil
  | cons hr _ ih =>
    obtain ⟨r, rfl, hepoch, hcalled⟩ := hr
    rw [Registration.frames_cons_of_eq hepoch]
    exact .cons hcalled ih

/-- The monitor holds a frame for every level that a worker is down. -/
lemma Nested.stack (hm : m.Observed fixed e w) (h : Nested fixed e worker p bs)
    (hbs : m.blocks (thread worker).number = bs) :
    List.Forall₂ (Called fixed worker) (levels p)
      (stack (thread worker).number w.monitor.registry) := by
  rw [(hm.records.holding _).stack, hm.attended.epoch, hbs]
  exact frames_of_registered h.registered

/-! ### Turns and the monitor -/

lemma monitor_enter (hw : w.monitor.isStarted = true) (t : Thread) (service : ServiceDescriptor)
    (pipeline : Pipeline) (s : InvokeState) (now : Instant) :
    ∃ f, (w.step (.enter t service pipeline (.ok s) now)).monitor = { w.monitor with
      registry := w.monitor.registry.push t f
      invocations := w.monitor.invocations + 1
      nextSerial := w.monitor.nextSerial + 1 } := by
  simp only [Watch.step, Watch.react, Watch.enter, Monitor.register_ok hw]
  exact ⟨_, rfl⟩

/-- The end of a worker's call takes out its topmost frame. -/
lemma monitor_leave (hm : m.Observed fixed e w) (h : Nested fixed e worker (p + 1) bs)
    (hbs : m.blocks (thread worker).number = bs) (failed : Bool) :
    ∃ f fs, stack (thread worker).number w.monitor.registry = f :: fs ∧
      (w.step (.leave (thread worker).number failed)).monitor = { w.monitor with
        registry := w.monitor.registry.pop (thread worker).number f.serial
        errors := if failed then w.monitor.errors + 1 else w.monitor.errors } := by
  have hholding := hm.records.holding (thread worker).number
  have hunfinished := hholding.unfinished
  have hstack := hholding.stack
  have hregistered := h.registered
  rw [hbs] at hunfinished hstack
  -- the innermost call was registered in this epoch, so its ticket is good
  rcases hrs : registrations 0 bs with _ | ⟨r?, rs⟩ <;> rw [hrs] at hregistered
  · cases hregistered
  · obtain _ | ⟨⟨r, rfl, hepoch, -⟩, -⟩ := hregistered
    have hepoch' : r.epoch = w.monitor.epoch := hepoch.trans hm.attended.epoch.symm
    rw [hrs, Registration.frames_cons_of_eq hepoch'] at hstack
    rw [hrs] at hunfinished
    refine ⟨r.frame, _, hstack, ?_⟩
    simp only [Watch.step, Watch.react, Watch.leave, hunfinished, List.map_cons, Option.map_some]
    exact Monitor.complete_of_eq hepoch'

/-- Only the worker whose turn it was is elsewhere. -/
lemma workers_of_control {P : Nat → Control Envelope → Prop} {c : Control Envelope}
    (h : ∀ k < o.threads, P k (m.control (thread k).number))
    (hcontrol : m'.control = setAt m.control (thread worker).number c) (hc : P worker c) :
    ∀ k < o.threads, P k (m'.control (thread k).number) := by
  intro k hk
  rw [hcontrol]
  by_cases hkw : k = worker
  · rw [hkw, setAt_same]
    exact hc
  · rw [setAt_of_ne _ _ (thread_number_ne hkw)]
    exact h k hk

/-! ### Coming in -/

/-- Where a worker can be while the gate is closed. -/
inductive Inward (o : DemoOptions) (fixed : Option InvokeState) (e worker : Nat) :
    Control Envelope → Prop
  | outside : Inward o fixed e worker ⟨work o worker, []⟩
  | nested {p : Nat} {bs : List (Block Envelope)} (hp : p ≤ o.depth)
      (hbs : Nested fixed e worker p bs) : Inward o fixed e worker (inward o worker p bs)

/-- The workers come in to a monitor that had counted `a` calls and `b` failures before. -/
structure Coming (o : DemoOptions) (fixed : Option InvokeState) (e a b : Nat)
    (m : Machine Envelope) (w : Watch) : Prop where
  observed : m.Observed fixed e w
  workers : ∀ worker < o.threads, Inward o fixed e worker (m.control (thread worker).number)
  threads : ∀ i ∈ w.monitor.registry, ∃ worker < o.threads, i.thread = thread worker
  invocations : w.monitor.invocations = a + w.monitor.registry.frames.length
  errors : w.monitor.errors = b

/-- The crew begins to come in with the counters that the monitor has when it is started. -/
lemma coming_crew (hw : w.Records fun _ => []) (hkept : w.monitor.WellKept w.renderer)
    (fixed : Option InvokeState) (now : Instant) :
    Coming o fixed (w.start now).2.monitor.epoch (w.start now).2.monitor.invocations
      (w.start now).2.monitor.errors (crew o ⟨w, fixed⟩ now) (w.start now).2 := by
  have hbegun := observed_crew (o := o) hw hkept fixed now
  have hempty : (w.start now).2.monitor.registry = [] :=
    hbegun.wellKept.sound.eq_nil fun i _ => ((hw.start now).holding _).stack
  exact ⟨hbegun, fun _ _ => .outside, by simp [hempty], by simp [hempty], rfl⟩

namespace Coming

lemma turn (h : Coming o fixed e a b m w) (s : Nat × Instant) :
    ∃ w', Coming o fixed e a b (turn o false m s) w' := by
  rcases turn_cases o false m s with hs | ⟨hworker, hgate, hs⟩ <;> rw [hs]
  · exact ⟨w, h⟩
  · obtain ⟨worker, now⟩ := s
    have hwaits : ¬Ready o m worker := by simpa using hgate
    have hinward := h.workers worker hworker
    generalize hc : m.control (thread worker).number = c at hinward
    cases hinward with
    | outside =>
      obtain ⟨hm, bs, hbs, hcontrol⟩ := opens h.observed hc now
      have hnext : Inward o fixed e worker (inward o worker 0 bs) := .nested (Nat.zero_le _) hbs
      exact ⟨w, hm, workers_of_control h.workers hcontrol hnext, h.threads, h.invocations,
        h.errors⟩
    | @nested p bs hp hbs =>
      -- at full depth the worker would have had to wait
      have hlt : p < o.depth := by
        rw [Ready, Machine.blocks, hc, inward, hbs.length] at hwaits
        omega
      obtain ⟨hm, bs', hbs', hcontrol⟩ := goesDown h.observed hbs hlt hc now
      obtain ⟨f, hmonitor⟩ := monitor_enter h.observed.attended.started (thread worker)
        (service (p + 1)) (pipeline worker (p + 1)) (fixed.getD (state worker)) now
      refine ⟨_, hm, workers_of_control h.workers hcontrol (.nested hlt hbs'), ?_, ?_, ?_⟩ <;>
        rw [hmonitor]
      · intro i hi
        rcases thread_of_mem_push hi with hthread | ⟨j, hj, hthread⟩
        · exact ⟨worker, hworker, hthread⟩
        · exact hthread ▸ h.threads j hj
      · simp only [h.invocations, frames_push.length_eq, List.length_cons]
        omega
      · exact h.errors

lemma turns (h : Coming o fixed e a b m w) (schedule : List (Nat × Instant)) :
    ∃ w', Coming o fixed e a b (turns o false m schedule) w' :=
  turns_induction (fun s h => h.turn s) h schedule

/-! ### At the gate -/

variable (h : Coming o fixed e a b m w) (hready : ∀ worker < o.threads, Ready o m worker)
include h hready

lemma atGate (hworker : worker < o.threads) : ∃ bs, Nested fixed e worker o.depth bs ∧
    m.control (thread worker).number = outward o bs := by
  have hinward := h.workers worker hworker
  have hlength := hready worker hworker
  rw [Ready, Machine.blocks] at hlength
  generalize m.control (thread worker).number = c at hinward hlength
  cases hinward with
  | outside => exact absurd hlength (Nat.succ_ne_zero _).symm
  | @nested p bs hp hbs =>
    obtain rfl : p = o.depth := by
      rw [inward, hbs.length] at hlength
      omega
    exact ⟨bs, hbs, inward_depth⟩

lemma stack (hworker : worker < o.threads) :
    List.Forall₂ (Called fixed worker) (levels o.depth)
      (stack (thread worker).number w.monitor.registry) := by
  obtain ⟨bs, hbs, hcontrol⟩ := h.atGate hready hworker
  exact hbs.stack h.observed (Machine.Observed.blocks_eq hcontrol)

/-- Every entry of the registry is that of a worker, with a frame for every level. -/
lemma entry {i : Invocation} (hi : i ∈ w.monitor.registry) : ∃ worker < o.threads,
    i.thread = thread worker ∧ List.Forall₂ (Called fixed worker) (levels o.depth) i.frames := by
  obtain ⟨worker, hworker, hthread⟩ := h.threads i hi
  have hstack := h.stack hready hworker
  rw [← hthread, h.observed.wellKept.sound.stack_of_mem hi] at hstack
  exact ⟨worker, hworker, hthread, hstack⟩

/-- Every worker has an entry. -/
lemma numbers (hdepth : 0 < o.depth) : w.monitor.registry.numbers.Perm
    ((List.range o.threads).map fun worker => (thread worker).number) := by
  have hsound := h.observed.wellKept.sound
  have hnodup : ((List.range o.threads).map fun worker => (thread worker).number).Nodup :=
    List.nodup_range.map fun _ _ => Nat.succ.inj
  refine (List.perm_ext_iff_of_nodup hsound.numbers_nodup hnodup).mpr fun n => ?_
  rw [List.mem_map]
  constructor
  · intro hn
    obtain ⟨i, hi, rfl⟩ := List.mem_map.mp hn
    obtain ⟨worker, hworker, hthread⟩ := h.threads i hi
    exact ⟨worker, List.mem_range.mpr hworker, by rw [hthread]⟩
  · rintro ⟨worker, hworker, rfl⟩
    have hstack := (h.stack hready (List.mem_range.mp hworker)).length_eq
    -- no entry would mean no frames, but there is one for every level
    rw [← tracks_iff, hsound.tracks_iff_stack]
    intro hnil
    rw [hnil, length_levels] at hstack
    exact Nat.ne_of_gt hdepth hstack

lemma frames_length (hdepth : 0 < o.depth) :
    w.monitor.registry.frames.length = o.threads * o.depth := by
  have hlength : w.monitor.registry.length = o.threads := by
    simpa [Registry.numbers] using (h.numbers hready hdepth).length_eq
  rw [length_frames, hlength]
  intro i hi
  obtain ⟨worker, -, -, hframes⟩ := h.entry hready hi
  rw [← hframes.length_eq, length_levels]

end Coming

/-! ### Going out -/

/-- Where a worker can be after it has been at the gate. -/
inductive Outward (o : DemoOptions) (fixed : Option InvokeState) (e worker : Nat) :
    Control Envelope → Prop
  | nested {p : Nat} {bs : List (Block Envelope)} (hbs : Nested fixed e worker p bs) :
      Outward o fixed e worker (outward o bs)
  | outside : Outward o fixed e worker (outward o [])

/-- The workers go out of a monitor that has counted `a` calls; in the end it will have counted
`b` failures. -/
structure Going (o : DemoOptions) (fixed : Option InvokeState) (e a b : Nat)
    (m : Machine Envelope) (w : Watch) : Prop where
  observed : m.Observed fixed e w
  workers : ∀ worker < o.threads, Outward o fixed e worker (m.control (thread worker).number)
  threads : ∀ i ∈ w.monitor.registry, ∃ worker < o.threads, i.thread = thread worker
  invocations : w.monitor.invocations = a
  errors : w.monitor.errors + (if o.fail then w.monitor.registry.frames.length else 0) = b

namespace Going

lemma turn (h : Going o fixed e a b m w) (s : Nat × Instant) :
    ∃ w', Going o fixed e a b (turn o true m s) w' := by
  rcases turn_cases o true m s with hs | ⟨hworker, -, hs⟩ <;> rw [hs]
  · exact ⟨w, h⟩
  · obtain ⟨worker, now⟩ := s
    have houtward := h.workers worker hworker
    generalize hc : m.control (thread worker).number = c at houtward
    cases houtward with
    | outside =>
      rw [Machine.turn_ended hc]
      exact ⟨w, h⟩
    | @nested p bs hbs =>
      cases p with
      | zero =>
        obtain ⟨hm, hcontrol⟩ := closes h.observed hbs hc now
        exact ⟨w, hm, workers_of_control h.workers hcontrol .outside, h.threads, h.invocations,
          h.errors⟩
      | succ p =>
        obtain ⟨hm, bs', hbs', hcontrol⟩ := goesUp h.observed hbs hc now
        obtain ⟨f, fs, hstack, hmonitor⟩ :=
          monitor_leave h.observed hbs (Machine.Observed.blocks_eq hc) o.fail
        refine ⟨_, hm, workers_of_control h.workers hcontrol (.nested hbs'), ?_, ?_, ?_⟩ <;>
          rw [hmonitor]
        · intro i hi
          obtain ⟨j, hj, hthread⟩ := thread_of_mem_pop hi
          exact hthread ▸ h.threads j hj
        · exact h.invocations
        -- the frame that goes away is a failure that is counted, or nobody fails
        · have hlength := (frames_pop hstack).length_eq
          have herrors := h.errors
          simp only [hlength, List.length_cons] at herrors ⊢
          split_ifs at herrors ⊢ <;> omega

lemma turns (h : Going o fixed e a b m w) (schedule : List (Nat × Instant)) :
    ∃ w', Going o fixed e a b (turns o true m schedule) w' :=
  turns_induction (fun s h => h.turn s) h schedule

/-- Where the workers are once they have ended. -/
lemma outward_nil (h : Going o fixed e a b m w) {outcomes : List (Outcome Envelope)}
    (hended : (List.range o.threads).map
      (fun worker => ended? (m.control (thread worker).number)) = outcomes.map some) :
    ∀ worker < o.threads, m.control (thread worker).number = outward o [] := by
  intro worker hworker
  have hmem : ended? (m.control (thread worker).number) ∈ outcomes.map some :=
    hended ▸ List.mem_map_of_mem (List.mem_range.mpr hworker)
  obtain ⟨x, -, hx⟩ := List.mem_map.mp hmem
  have houtward := h.workers worker hworker
  generalize m.control (thread worker).number = c at houtward hx
  cases houtward with
  | outside => rfl
  | nested hbs => cases hbs <;> cases hx

/-- When all workers have ended, nothing is left with the monitor, and the books are closed. -/
lemma closed (h : Going o fixed e a b m w) {outcomes : List (Outcome Envelope)}
    (hended : (List.range o.threads).map
      (fun worker => ended? (m.control (thread worker).number)) = outcomes.map some) :
    outcomes = List.replicate o.threads (outcome o.fail) ∧ w.monitor.registry = [] ∧
      w.monitor.errors = b := by
  have hout := h.outward_nil hended
  have hregistry : w.monitor.registry = [] := by
    refine h.observed.wellKept.sound.eq_nil fun i hi => ?_
    obtain ⟨worker, hworker, hthread⟩ := h.threads i hi
    rw [hthread, (h.observed.records.holding _).stack,
      Machine.Observed.blocks_eq (hout worker hworker)]
    rfl
  refine ⟨?_, hregistry, ?_⟩
  · have hinjective := List.map_injective_iff.mpr (Option.some_injective (Outcome Envelope))
    exact hinjective (hended.symm.trans (ended_of_outward hout))
  · have herrors := h.errors
    rw [hregistry, frames_nil, List.length_nil, ite_self, Nat.add_zero] at herrors
    exact herrors

end Going

/-- When a report has been taken, the workers that were ready can go out. -/
lemma Coming.going (h : Coming o fixed e a b m w) (hready : ∀ worker < o.threads, Ready o m worker)
    {h' : Host} {later : Instant} (hm : Machine.Observed ⟨h', m.control⟩ fixed e (w.report later).2) :
    Going o fixed e w.monitor.invocations
      (b + if o.fail then w.monitor.registry.frames.length else 0)
      ⟨h', m.control⟩ (w.report later).2 := by
  have hmonitor : (w.report later).2.monitor = { w.monitor with
      kept := (Invocation.reports w.renderer later w.monitor.registry w.monitor.kept).2 } :=
    Monitor.report_of_sound w.renderer h.observed.wellKept.sound
  refine ⟨hm, fun worker hworker => ?_, ?_, ?_, ?_⟩
  · obtain ⟨bs, hbs, hcontrol⟩ := h.atGate hready hworker
    exact (congrArg _ hcontrol).mpr (.nested hbs)
  · rw [hmonitor]
    exact h.threads
  · rw [hmonitor]
  · rw [hmonitor, ← h.errors]

end Demo

end CallWatch
