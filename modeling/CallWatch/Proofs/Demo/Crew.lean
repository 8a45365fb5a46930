import CallWatch.Proofs.Host.Scoping
import CallWatch.Proofs.Monitor.Interleaving
import CallWatch.Proofs.Monitor.Reports

/-!
A crew of workers under a monitor.

Every worker runs one program: in a scope of its own it calls the services one inside of the
other, and in the innermost call it waits for a gate to open. The workers take their turns in any
order. Where a worker stands is settled by how many levels it is down and whether it is on the way
in or out; a turn that begins or ends a call is an event for the monitor, and the other turns are
not seen.
-/

namespace CallWatch

open Registry

/-! ### A machine with one monitor -/

lemma Watch.wellKept_next {w : Watch} (h : w.monitor.WellKept w.renderer) (ev : Event) :
    (w.step ev).monitor.WellKept (w.step ev).renderer := by
  rw [renderer_step]
  exact wellKept_step h ev

/-- The only monitor of a host, started and in epoch `e`. -/
structure Host.Attended (h : Host) (fixed : Option InvokeState) (e : Nat) (w : Watch) : Prop where
  members : h.members = [⟨w, fixed⟩]
  installed : h.chain.installed = [0]
  started : w.monitor.isStarted = true
  epoch : w.monitor.epoch = e

namespace Host.Attended

variable {h h' : Host} {fixed : Option InvokeState} {e : Nat} {w : Watch}

lemma unseen (hw : h.Attended fixed e w) (hmembers : h'.members = h.members)
    (hchain : h'.chain = h.chain) : h'.Attended fixed e w :=
  ⟨hmembers.trans hw.members, hchain ▸ hw.installed, hw.started, hw.epoch⟩

lemma step (hw : h.Attended fixed e w) {ev : Event} (hev : ev.changes = false)
    (hmembers : h'.members = [⟨w.step ev, fixed⟩]) (hchain : h'.chain = h.chain) :
    h'.Attended fixed e (w.step ev) := by
  obtain ⟨hepoch, hmillis⟩ := Watch.unchanged_step (w := w) hev
  refine ⟨hmembers, hchain ▸ hw.installed, ?_, hepoch.trans hw.epoch⟩
  rw [Monitor.isStarted, hmillis]
  exact hw.started

lemma enter (hw : h.Attended fixed e w) {t : Thread} {s : InvokeState}
    (hs : h.ambient.bound t.number = some s) (service : ServiceDescriptor) (pipeline : Pipeline)
    (now : Instant) : (h.enter t service pipeline now).Attended fixed e
      (w.step (.enter t service pipeline (.ok (fixed.getD s)) now)) := by
  have hstate : h.stateFor ⟨w, fixed⟩ t.number = .ok (fixed.getD s) := by
    cases fixed <;> simp [stateFor, Ambient.current, hs]
  rw [Host.enter_eq]
  refine hw.step rfl ?_ rfl
  simp [hw.installed, hw.members, hstate, Watch.step, Watch.react]

lemma leave (hw : h.Attended fixed e w) {n : Nat} {p : Pipeline} {rest : List Level}
    (hl : h.levels n = .call p [0] :: rest) (failed : Bool) :
    (h.endLevel n failed).Attended fixed e (w.step (.leave n failed)) := by
  rw [Host.endLevel_call hl]
  refine hw.step rfl ?_ rfl
  simp [hw.members, Watch.step, Watch.react]

end Host.Attended

namespace Machine

variable {ε : Type} {m : Machine ε} {t : Thread}

/-- A machine with one monitor, which is well kept. -/
structure Observed (m : Machine ε) (fixed : Option InvokeState) (e : Nat) (w : Watch) : Prop where
  attended : m.host.Attended fixed e w
  isScoped : m.Scoped
  wellKept : w.monitor.WellKept w.renderer

lemma control_goto_eq {n : Nat} {code : Routine ε} {bs : List (Block ε)} {h : Host} :
    (m.goto n code bs h).control = setAt m.control n ⟨code, bs⟩ := rfl

namespace Observed

variable {fixed : Option InvokeState} {e : Nat} {w : Watch} {s : InvokeState} {o : Outcome ε}
  {body : Routine ε} {next : Outcome ε → Routine ε} {bs : List (Block ε)}

lemma blocks_eq {n : Nat} {code : Routine ε} (hc : m.control n = ⟨code, bs⟩) :
    m.blocks n = bs := by
  rw [blocks, hc]

lemma records (hm : m.Observed fixed e w) : w.Records fun n => registrations 0 (m.blocks n) :=
  hm.isScoped.members 0 ⟨w, fixed⟩ (by rw [hm.attended.members]; rfl)

lemma scope (hm : m.Observed fixed e w)
    (hc : m.control t.number = ⟨.scope s body next, bs⟩) (now : Instant) :
    (m.turn t now).Observed fixed e w ∧
      (m.turn t now).control = setAt m.control t.number ⟨body, .scope s next :: bs⟩ := by
  have hturn : m.turn t now = _ := turn_scope (congrArg Control.code hc)
  rw [blocks_eq hc] at hturn
  refine ⟨⟨?_, hm.isScoped.turn t now, hm.wellKept⟩, by rw [hturn, control_goto_eq]⟩
  rw [hturn, host_goto]
  exact hm.attended.unseen rfl rfl

lemma call (hm : m.Observed fixed e w) {service : ServiceDescriptor} {pipeline : Pipeline}
    (hc : m.control t.number = ⟨.call service pipeline body next, bs⟩)
    (hs : innermost bs = some s) (now : Instant) :
    (m.turn t now).Observed fixed e
        (w.step (.enter t service pipeline (.ok (fixed.getD s)) now)) ∧
      (m.turn t now).control =
        setAt m.control t.number ⟨body, .call ⟨service, pipeline, now, m.host⟩ next :: bs⟩ := by
  have hturn : m.turn t now = _ := turn_call (congrArg Control.code hc)
  have hbound : m.host.ambient.bound t.number = some s := by
    rw [hm.isScoped.bound, blocks_eq hc, hs]
  rw [blocks_eq hc] at hturn
  refine ⟨⟨?_, hm.isScoped.turn t now, Watch.wellKept_next hm.wellKept _⟩,
    by rw [hturn, control_goto_eq]⟩
  rw [hturn, host_goto]
  exact hm.attended.enter hbound service pipeline now

lemma endCall (hm : m.Observed fixed e w) {c : Running}
    (hc : m.control t.number = ⟨.done o, .call c next :: bs⟩)
    (hthrough : c.host.chain.installed = [0]) (now : Instant) :
    (m.turn t now).Observed fixed e (w.step (.leave t.number o.failed)) ∧
      (m.turn t now).control = setAt m.control t.number ⟨.after o next, bs⟩ := by
  have hturn : m.turn t now = _ := turn_endCall (congrArg Control.code hc) (blocks_eq hc)
  have hl : m.host.levels t.number = .call c.pipeline [0] :: levelsOf bs := by
    rw [hm.isScoped.levels, blocks_eq hc, levelsOf, hthrough]
  refine ⟨⟨?_, hm.isScoped.turn t now, Watch.wellKept_next hm.wellKept _⟩,
    by rw [hturn, control_goto_eq]⟩
  rw [hturn, host_goto]
  exact hm.attended.leave hl o.failed

lemma endScope (hm : m.Observed fixed e w)
    (hc : m.control t.number = ⟨.done o, .scope s next :: bs⟩) (now : Instant) :
    (m.turn t now).Observed fixed e w ∧
      (m.turn t now).control = setAt m.control t.number ⟨.after o next, bs⟩ := by
  have hturn : m.turn t now = _ := turn_endScope (congrArg Control.code hc) (blocks_eq hc)
  have hl : m.host.levels t.number = .scope (innermost bs) :: levelsOf bs := by
    rw [hm.isScoped.levels, blocks_eq hc, levelsOf]
  refine ⟨⟨?_, hm.isScoped.turn t now, hm.wellKept⟩, by rw [hturn, control_goto_eq]⟩
  rw [hturn, host_goto, Host.endLevel_scope hl]
  exact hm.attended.unseen rfl rfl

/-- A report does not disturb the machine. -/
lemma report (hm : m.Observed fixed e w) (later : Instant) :
    ∃ h, m.host.report? 0 later = some ((w.report later).1, h) ∧
      Observed ⟨h, m.control⟩ fixed e (w.report later).2 := by
  have hmember : m.host.members[0]? = some ⟨w, fixed⟩ := by rw [hm.attended.members]; rfl
  refine ⟨_, by rw [Host.report?, hmember, Option.map_some], ?_, ?_, ?_⟩
  · have hsame : (Event.report later).changes = false := rfl
    refine hm.attended.step hsame ?_ rfl
    simp [Host.setWatch, hm.attended.members, Watch.step, Watch.react]
  · exact hm.isScoped.setWatch 0 fun _ _ hw => hw.report later
  · exact Watch.wellKept_next hm.wellKept (.report later)

end Observed

end Machine

namespace Demo

/-! ### Programs -/

def failure : Envelope :=
  .expected ⟨"demo", "failure"⟩ "innermost demo service failed on request"

/-- How the innermost service ends. -/
def outcome (fail : Bool) : Outcome Envelope := if fail then .err failure else .ok

/-- A worker calls the services one inside of the other; the innermost one ends with `o`. -/
def descend (o : Outcome Envelope) (worker : Nat) :
    Nat → List ServiceDescriptor → Routine Envelope
  | _, [] => .done o
  | level, s :: deeper =>
    .call s (pipeline worker level) (descend o worker (level + 1) deeper) .done

def work (o : DemoOptions) (worker : Nat) : Routine Envelope :=
  .scope (state worker) (descend (outcome o.fail) worker 1 (services o.depth)) .done

/-- The crew under a monitor that is started, if it was stopped; a worker has the thread after its
own number. -/
def crew (o : DemoOptions) (mem : Member) (now : Instant) : Machine Envelope where
  host := ((Host.init [mem]).startMonitor 0 now).2
  control n := ⟨work o (n - 1), []⟩

/-- A worker is in its innermost call. -/
def Ready (o : DemoOptions) (m : Machine Envelope) (worker : Nat) : Prop :=
  (m.blocks (thread worker).number).length = o.depth + 1

instance (o : DemoOptions) (m : Machine Envelope) (worker : Nat) : Decidable (Ready o m worker) :=
  inferInstanceAs (Decidable (_ = _))

/-- A worker takes a turn; while the gate is closed, a worker that is ready waits. -/
def turn (o : DemoOptions) (opened : Bool) (m : Machine Envelope) (s : Nat × Instant) :
    Machine Envelope :=
  if s.1 < o.threads ∧ (opened ∨ ¬Ready o m s.1) then m.turn (thread s.1) s.2 else m

def turns (o : DemoOptions) (opened : Bool) (m : Machine Envelope)
    (schedule : List (Nat × Instant)) : Machine Envelope := schedule.foldl (turn o opened) m

section

variable {o : DemoOptions} {opened : Bool} {m : Machine Envelope} {worker : Nat} {now : Instant}

@[simp] lemma failed_outcome (fail : Bool) : (outcome fail).failed = fail := by
  cases fail <;> rfl

@[simp] lemma after_outcome (fail : Bool) :
    Routine.after (outcome fail) .done = .done (outcome fail) := by
  cases fail <;> rfl

lemma countP_failed (n : Nat) (fail : Bool) :
    (List.replicate n (outcome fail)).countP Outcome.failed = if fail then n else 0 := by
  rw [List.countP_replicate, failed_outcome]

lemma thread_number_ne {a b : Nat} (h : a ≠ b) : (thread a).number ≠ (thread b).number :=
  fun he => h (Nat.succ.inj he)

lemma turn_of (hworker : worker < o.threads) (hgate : opened ∨ ¬Ready o m worker) :
    turn o opened m (worker, now) = m.turn (thread worker) now := if_pos ⟨hworker, hgate⟩

lemma turn_cases (o : DemoOptions) (opened : Bool) (m : Machine Envelope) (s : Nat × Instant) :
    turn o opened m s = m ∨ s.1 < o.threads ∧ (opened ∨ ¬Ready o m s.1) ∧
      turn o opened m s = m.turn (thread s.1) s.2 := by
  by_cases hs : s.1 < o.threads ∧ (opened ∨ ¬Ready o m s.1)
  · exact .inr ⟨hs.1, hs.2, if_pos hs⟩
  · exact .inl (if_neg hs)

/-- The other workers stay where they are. -/
lemma blocks_turn_of_ne {s : Nat × Instant} {k : Nat} (h : s.1 ≠ k) :
    (turn o opened m s).blocks (thread k).number = m.blocks (thread k).number := by
  rcases turn_cases o opened m s with hs | ⟨-, -, hs⟩ <;> rw [hs]
  have hother : ∀ t now, Move.turn (thread s.1) s.2 = .turn t now → t.number ≠ (thread k).number := by
    intro t now ht
    obtain ⟨rfl, -⟩ := Move.turn.inj ht
    exact thread_number_ne h
  exact Machine.blocks_step_of_ne hother

lemma turns_append (m : Machine Envelope) (first second : List (Nat × Instant)) :
    turns o opened m (first ++ second) = turns o opened (turns o opened m first) second :=
  List.foldl_append

/-- What holds of the crew and its monitor after every turn holds after every schedule. -/
lemma turns_induction {P : Machine Envelope → Watch → Prop}
    (hturn : ∀ {m w} s, P m w → ∃ w', P (turn o opened m s) w') {w : Watch} (h : P m w)
    (schedule : List (Nat × Instant)) : ∃ w', P (turns o opened m schedule) w' := by
  induction schedule generalizing m w with
  | nil => exact ⟨w, h⟩
  | cons s schedule ih =>
    obtain ⟨w', h'⟩ := hturn s h
    exact ih h'

end

/-! ### Where a worker stands -/

/-- The levels of a worker that is `p` levels down, innermost first. -/
def levels : Nat → List Nat
  | 0 => []
  | p + 1 => (p + 1) :: levels p

@[simp] lemma length_levels (p : Nat) : (levels p).length = p := by
  induction p with
  | zero => rfl
  | succ p ih => rw [levels, List.length_cons, ih]

/-- The blocks around a worker that is `p` levels down; all its calls have gone through the
monitor in epoch `e`. -/
inductive Nested (fixed : Option InvokeState) (e worker : Nat) :
    Nat → List (Block Envelope) → Prop
  | scope : Nested fixed e worker 0 [.scope (state worker) .done]
  | call {p : Nat} {bs : List (Block Envelope)} (hbs : Nested fixed e worker p bs) {h : Host}
      {w : Watch} (hw : h.Attended fixed e w) (now : Instant) :
      Nested fixed e worker (p + 1)
        (.call ⟨service (p + 1), pipeline worker (p + 1), now, h⟩ .done :: bs)

/-- A worker that is `p` levels down on the way in. -/
def inward (o : DemoOptions) (worker p : Nat) (bs : List (Block Envelope)) : Control Envelope :=
  ⟨descend (outcome o.fail) worker (p + 1) ((services o.depth).drop p), bs⟩

/-- A worker on the way out. -/
def outward (o : DemoOptions) (bs : List (Block Envelope)) : Control Envelope :=
  ⟨.done (outcome o.fail), bs⟩

section

variable {o : DemoOptions} {fixed : Option InvokeState} {e worker p : Nat} {m : Machine Envelope}
  {w : Watch} {bs : List (Block Envelope)}

lemma Nested.length (h : Nested fixed e worker p bs) : bs.length = p + 1 := by
  induction h with
  | scope => rfl
  | call _ _ _ ih => rw [List.length_cons, ih]

lemma Nested.innermost (h : Nested fixed e worker p bs) :
    CallWatch.innermost bs = some (state worker) := by
  induction h with
  | scope => rfl
  | call _ _ _ ih => rw [innermost_call, ih]

/-- Nothing is left to be called at full depth. -/
lemma inward_depth : inward o worker o.depth bs = outward o bs := by
  have hnil : (services o.depth).drop o.depth = [] := by simp [services]
  rw [inward, hnil]
  rfl

lemma inward_of_lt (hp : p < o.depth) : inward o worker p bs =
    ⟨.call (service (p + 1)) (pipeline worker (p + 1))
      (descend (outcome o.fail) worker (p + 2) ((services o.depth).drop (p + 1))) .done, bs⟩ := by
  have hlt : p < (services o.depth).length := by simpa [services] using hp
  have hget : (services o.depth)[p] = service (p + 1) := by simp [services]
  rw [inward, List.drop_eq_getElem_cons hlt, hget]
  rfl

lemma opens (hm : m.Observed fixed e w)
    (hc : m.control (thread worker).number = ⟨work o worker, []⟩) (now : Instant) :
    (m.turn (thread worker) now).Observed fixed e w ∧
      ∃ bs, Nested fixed e worker 0 bs ∧ (m.turn (thread worker) now).control =
        setAt m.control (thread worker).number (inward o worker 0 bs) := by
  obtain ⟨hnext, hcontrol⟩ := hm.scope hc now
  exact ⟨hnext, _, .scope, hcontrol⟩

lemma goesDown (hm : m.Observed fixed e w) (hbs : Nested fixed e worker p bs) (hp : p < o.depth)
    (hc : m.control (thread worker).number = inward o worker p bs) (now : Instant) :
    (m.turn (thread worker) now).Observed fixed e (w.step (.enter (thread worker)
        (service (p + 1)) (pipeline worker (p + 1)) (.ok (fixed.getD (state worker))) now)) ∧
      ∃ bs', Nested fixed e worker (p + 1) bs' ∧ (m.turn (thread worker) now).control =
        setAt m.control (thread worker).number (inward o worker (p + 1) bs') := by
  rw [inward_of_lt hp] at hc
  obtain ⟨hnext, hcontrol⟩ := hm.call hc hbs.innermost now
  exact ⟨hnext, _, .call hbs hm.attended now, hcontrol⟩

lemma goesUp (hm : m.Observed fixed e w) (hbs : Nested fixed e worker (p + 1) bs)
    (hc : m.control (thread worker).number = outward o bs) (now : Instant) :
    (m.turn (thread worker) now).Observed fixed e
        (w.step (.leave (thread worker).number o.fail)) ∧
      ∃ bs', Nested fixed e worker p bs' ∧ (m.turn (thread worker) now).control =
        setAt m.control (thread worker).number (outward o bs') := by
  obtain ⟨⟩ | ⟨hbs, hw, now'⟩ := hbs
  obtain ⟨hnext, hcontrol⟩ := hm.endCall hc hw.installed now
  rw [failed_outcome] at hnext
  rw [after_outcome] at hcontrol
  exact ⟨hnext, _, hbs, hcontrol⟩

lemma closes (hm : m.Observed fixed e w) (hbs : Nested fixed e worker 0 bs)
    (hc : m.control (thread worker).number = outward o bs) (now : Instant) :
    (m.turn (thread worker) now).Observed fixed e w ∧
      (m.turn (thread worker) now).control =
        setAt m.control (thread worker).number (outward o []) := by
  cases hbs
  obtain ⟨hnext, hcontrol⟩ := hm.endScope hc now
  rw [after_outcome] at hcontrol
  exact ⟨hnext, hcontrol⟩

end

/-! ### Performances -/

/-- How a program ended, once its thread is outside of all blocks. -/
def ended? : Control Envelope → Option (Outcome Envelope)
  | ⟨.done o, []⟩ => some o
  | _ => none

lemma ended_of_outward {o : DemoOptions} {m : Machine Envelope}
    (h : ∀ worker < o.threads, m.control (thread worker).number = outward o []) :
    (List.range o.threads).map (fun worker => ended? (m.control (thread worker).number)) =
      (List.replicate o.threads (outcome o.fail)).map some := by
  rw [List.map_replicate, List.eq_replicate_iff]
  refine ⟨by simp, fun x hx => ?_⟩
  obtain ⟨worker, hworker, rfl⟩ := List.mem_map.mp hx
  rw [h worker (List.mem_range.mp hworker)]
  rfl

/-- A whole performance. The workers come in, in some order, until all are ready; a report is taken
and the gate opens; the workers go out, in some order, until all have ended. -/
inductive Performed (o : DemoOptions) (mem : Member) (now later : Instant)
    (arriving leaving : List (Nat × Instant)) : DemoOutcome → Member → Prop
  | intro {arrived gone : Machine Envelope} {report : UsageReport} {h : Host}
      {outcomes : List (Outcome Envelope)} {left : Member}
      (harrived : turns o false (crew o mem now) arriving = arrived)
      (hready : ∀ worker < o.threads, Ready o arrived worker)
      (hreport : arrived.host.report? 0 later = some (report, h))
      (hgone : turns o true ⟨h, arrived.control⟩ leaving = gone)
      (houtcomes : (List.range o.threads).map
        (fun worker => ended? (gone.control (thread worker).number)) = outcomes.map some)
      (hleft : gone.host.members = [left]) :
      Performed o mem now later arriving leaving {
        report := report
        succeeded := outcomes.length - outcomes.countP Outcome.failed
        failed := outcomes.countP Outcome.failed
        invocations := left.watch.monitor.invocations
        errors := left.watch.monitor.errors } left

/-- The crew before anybody has taken a turn. -/
lemma observed_crew {o : DemoOptions} {w : Watch} (hw : w.Records fun _ => [])
    (hkept : w.monitor.WellKept w.renderer) (fixed : Option InvokeState) (now : Instant) :
    (crew o ⟨w, fixed⟩ now).Observed fixed (w.start now).2.monitor.epoch (w.start now).2 := by
  refine ⟨⟨rfl, rfl, ?_, rfl⟩, ⟨fun _ => rfl, fun _ => rfl, fun i mem hmem => ?_⟩,
    Watch.wellKept_next hkept (.start now)⟩
  · rcases hs : w.monitor.isStarted with _ | _
    · rw [Watch.start, Monitor.start_of_stopped hs]
      rfl
    · rw [Watch.start, Monitor.start_of_started hs]
      exact hs
  · obtain rfl : ⟨(w.start now).2, fixed⟩ = mem := by
      cases i with
      | zero => exact Option.some.inj hmem
      | succ i => cases hmem
    exact hw.start now

end Demo

/-- What a monitor without unfinished calls holds. -/
lemma Watch.records_of_quiet {r : Renderer} {es : List Event}
    (h : ∀ n, (run (init r) es).unfinished n = []) : (run (init r) es).Records fun _ => [] := by
  have hc := coupled_run r es
  refine ⟨hc.sound, fun n => ⟨h n, ?_, fun _ hr => absurd hr List.not_mem_nil⟩⟩
  have hmatched := hc.matched n
  rw [h n] at hmatched
  generalize stack n (run (init r) es).monitor.registry = fs,
    Visit.unfinished n (Journal.ofEvents es).visits = vs at hmatched
  cases hmatched
  rfl

end CallWatch
