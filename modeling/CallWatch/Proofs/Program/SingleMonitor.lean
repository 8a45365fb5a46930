import CallWatch.Program
import CallWatch.Proofs.Monitor.Numbering
import Mathlib.Data.List.Induction
import Mathlib.Tactic.Common

/-!
The one monitor of a program.

A program goes on by deeds, each a step of its own, whichever thread does it: the monitor is
asked for, or installed from a configuration, or an event happens to it through a handle that
was given out. A handle is the number of the monitor that it stands for, and does nothing if
that is not the monitor of the program.

The first deed that needs the monitor opens it. From there only events through its handle reach
it, so the monitor at any later time is the run of these events, and neither who asks for it nor
what somebody tries to install makes a difference to it.
-/

namespace CallWatch

/-! ### Deeds -/

inductive Deed where
  | ask
  | install (c : ValidConfig) (now : Instant)
  /-- An event happens to the monitor that a handle stands for. -/
  | use (handle : Nat) (e : Event)
  | trace (directives : String) (format : LogFormat)

inductive Reply where
  | handle (number : Nat)
  | refused (e : Envelope)
  | answer (a : Answer)
  | done

namespace Deed

/-- The limits that a deed would give to the monitor, if it needs the monitor to be there. -/
def limits? : Deed → Option RenderOptions
  | ask => some .standard
  | install c _ => some c.renderOptions
  | use _ _ | trace _ _ => none

/-- The event that a deed causes through a handle. -/
def through? (handle : Nat) : Deed → Option Event
  | use h e => if h = handle then some e else none
  | _ => none

end Deed

namespace Program

/-- An event happens to the monitor of the program, with the lines that it leaves in the log. -/
def drive (p : Program) : Event → Answer × Program
  | .start now => let r := p.start now; (.changed r.1, r.2)
  | .stop => let r := p.stop; (.changed r.1, r.2)
  | .enter t service pipeline (.error cause) now =>
    let r := p.act fun w => (w.monitor.isStarted, w.enter t service pipeline (.error cause) now)
    (.done, if r.1 then r.2.log (.registrationSkipped service.name.text cause) else r.2)
  | e => p.act fun w => w.react e

def perform (p : Program) : Deed → Reply × Program
  | .ask => let r := p.monitor; (.handle r.1.number, r.2)
  | .install c now =>
    match p.install c now with
    | (.ok number, p) => (.handle number, p)
    | (.error e, p) => (.refused e, p)
  | .use handle e =>
    match p.installed with
    | some m => if m.number = handle then let r := p.drive e; (.answer r.1, r.2) else (.done, p)
    | none => (.done, p)
  | .trace directives format =>
    match p.trace directives format with
    | (.ok (), p) => (.done, p)
    | (.error e, p) => (.refused e, p)

end Program

/-- What has been done and replied, and the program as it is now. -/
structure Course where
  said : List (Deed × Reply)
  program : Program

namespace Course

def init : Course := ⟨[], .init⟩

def step (c : Course) (d : Deed) : Course :=
  let r := c.program.perform d
  ⟨c.said ++ [(d, r.1)], r.2⟩

/-- A program from its beginning. -/
def after (ds : List Deed) : Course := ds.foldl step init

/-- A handle that somebody was given. -/
def Given (c : Course) (handle : Nat) : Prop := ∃ d, (d, Reply.handle handle) ∈ c.said

/-- A configuration has been installed. -/
def installs : Deed × Reply → Bool
  | (.install _ _, .handle _) => true
  | _ => false

lemma after_concat (ds : List Deed) (d : Deed) : after (ds ++ [d]) = (after ds).step d := by
  rw [after, List.foldl_append]
  rfl

end Course

/-! ### Acting on a monitor that is there -/

namespace Program

variable {p : Program} {m : Installed}

lemma installed_log (p : Program) (e : LogEvent) : (p.log e).installed = p.installed := by
  unfold log
  split
  · rfl
  · split <;> rfl

lemma installed_ite_log (b : Bool) (p : Program) (e : LogEvent) :
    (if b then p.log e else p).installed = p.installed := by
  split
  · exact installed_log p e
  · rfl

lemma installed_trace (directives : String) (format : LogFormat) (p : Program) :
    (p.trace directives format).2.installed = p.installed := by
  unfold trace
  split
  · rfl
  · split <;> rfl

lemma monitor_of_some (h : p.installed = some m) : p.monitor = (m, p) := by
  simp [monitor, h]

lemma act_of_some {α : Type} (f : Watch → α × Watch) (h : p.installed = some m) :
    p.act f = ((f m.watch).1, { p with installed := some ⟨m.number, (f m.watch).2⟩ }) := by
  simp only [act, monitor_of_some h]

lemma start_of_some (now : Instant) (h : p.installed = some m) :
    (p.start now).1 = (m.watch.start now).1 ∧
      (p.start now).2.installed = some ⟨m.number, (m.watch.start now).2⟩ := by
  unfold start
  dsimp only
  rw [installed_ite_log, act_of_some _ h]
  exact ⟨rfl, rfl⟩

lemma stop_of_some (h : p.installed = some m) :
    p.stop.1 = m.watch.stop.1 ∧ p.stop.2.installed = some ⟨m.number, m.watch.stop.2⟩ := by
  unfold stop
  dsimp only
  rw [installed_ite_log, act_of_some _ h]
  exact ⟨rfl, rfl⟩

lemma drive_of_some (e : Event) (h : p.installed = some m) :
    (p.drive e).1 = (m.watch.react e).1 ∧
      (p.drive e).2.installed = some ⟨m.number, m.watch.step e⟩ := by
  unfold drive
  split
  · next now =>
    obtain ⟨hanswer, hinstalled⟩ := start_of_some now h
    exact ⟨congrArg Answer.changed hanswer, hinstalled⟩
  · obtain ⟨hanswer, hinstalled⟩ := stop_of_some h
    exact ⟨congrArg Answer.changed hanswer, hinstalled⟩
  · dsimp only
    rw [installed_ite_log, act_of_some _ h]
    exact ⟨rfl, rfl⟩
  · rw [act_of_some _ h]
    exact ⟨rfl, rfl⟩

lemma install_of_some (c : ValidConfig) (now : Instant) (h : p.installed = some m) :
    p.install c now = (.error alreadyInstalled, { p with built := p.built + 1 }) := by
  unfold install
  simp only [h]

/-! ### Opening the monitor -/

lemma monitor_of_none (h : p.installed = none) :
    p.monitor = (⟨p.built, standardWatch⟩,
      { p with built := p.built + 1, installed := some ⟨p.built, standardWatch⟩ }) := by
  simp [monitor, h]

lemma install_of_none (c : ValidConfig) (now : Instant) (h : p.installed = none) :
    (p.install c now).1 = .ok p.built ∧ ∃ w : Watch,
      (p.install c now).2.installed = some ⟨p.built, w⟩ ∧ w.renderer = .html c.renderOptions ∧
        w.monitor.isStarted = c.config.autoStart := by
  unfold install
  simp only [h, installed_log]
  refine ⟨trivial, ?_⟩
  cases hauto : c.config.autoStart with
  | false => exact ⟨_, rfl, rfl, rfl⟩
  | true =>
    rw [if_pos rfl, (start_of_some now rfl).2]
    exact ⟨_, rfl, rfl, rfl⟩

/-! ### What a deed does -/

lemma perform_install_of_some (c : ValidConfig) (now : Instant) (h : p.installed = some m) :
    p.perform (.install c now) = (.refused alreadyInstalled, { p with built := p.built + 1 }) := by
  simp only [perform, install_of_some c now h]

lemma perform_install_of_none (c : ValidConfig) (now : Instant) (h : p.installed = none) :
    (p.perform (.install c now)).1 = .handle p.built ∧ ∃ w : Watch,
      (p.perform (.install c now)).2.installed = some ⟨p.built, w⟩ ∧
        w.renderer = .html c.renderOptions ∧ w.monitor.isStarted = c.config.autoStart := by
  obtain ⟨hnumber, w, hw⟩ := install_of_none c now h
  have hinstall : p.install c now = (.ok p.built, (p.install c now).2) := Prod.ext hnumber rfl
  rw [perform, hinstall]
  exact ⟨rfl, w, hw⟩

lemma perform_use_of_some (e : Event) (h : p.installed = some m) :
    (p.perform (.use m.number e)).1 = .answer (m.watch.react e).1 ∧
      (p.perform (.use m.number e)).2.installed = some ⟨m.number, m.watch.step e⟩ := by
  obtain ⟨hanswer, hinstalled⟩ := drive_of_some e h
  rw [perform, h]
  dsimp only
  rw [if_pos rfl]
  exact ⟨congrArg Reply.answer hanswer, hinstalled⟩

lemma perform_trace (directives : String) (format : LogFormat) (p : Program) :
    (∀ n, (p.perform (.trace directives format)).1 ≠ .handle n) ∧
      (p.perform (.trace directives format)).2.installed = p.installed := by
  have htrace := installed_trace directives format p
  unfold perform
  dsimp only
  split
  · next p' he =>
    rw [he] at htrace
    exact ⟨nofun, htrace⟩
  · next e p' he =>
    rw [he] at htrace
    exact ⟨nofun, htrace⟩

/-- All that a deed can do: open the monitor, nothing while there is none, or let an event
happen to the one that is there. -/
inductive Performed (p : Program) (d : Deed) (r : Reply) (p' : Program) : Prop
  | opened {o : RenderOptions} {w : Watch} (hp : p.installed = none) (ho : d.limits? = some o)
      (hr : r = .handle p.built) (hp' : p'.installed = some ⟨p.built, w⟩)
      (hw : w.renderer = .html o)
  | idle (hp : p.installed = none) (ho : d.limits? = none) (hr : ∀ n, r ≠ .handle n)
      (hp' : p'.installed = none)
  | kept {m : Installed} (hp : p.installed = some m)
      (hr : ∀ n, r = .handle n → d = .ask ∧ n = m.number)
      (hp' : p'.installed = some ⟨m.number, m.watch.run (d.through? m.number).toList⟩)

lemma performed_of_none (d : Deed) (h : p.installed = none) :
    Performed p d (p.perform d).1 (p.perform d).2 := by
  cases d with
  | ask =>
    rw [perform, monitor_of_none h]
    exact .opened h rfl rfl rfl rfl
  | install c now =>
    obtain ⟨hr, w, hp', hw, -⟩ := perform_install_of_none c now h
    exact .opened h rfl hr hp' hw
  | use handle e =>
    rw [perform, h]
    exact .idle h rfl nofun h
  | trace directives format =>
    obtain ⟨hr, hp'⟩ := perform_trace directives format p
    exact .idle h rfl hr (hp'.trans h)

lemma performed_of_some (d : Deed) (h : p.installed = some m) :
    Performed p d (p.perform d).1 (p.perform d).2 := by
  cases d with
  | ask =>
    rw [perform, monitor_of_some h]
    refine .kept h (fun n hn => ?_) h
    exact ⟨rfl, (Reply.handle.inj hn).symm⟩
  | install c now =>
    rw [perform_install_of_some c now h]
    exact .kept h nofun h
  | use handle e =>
    by_cases hm : m.number = handle
    · subst hm
      obtain ⟨hr, hp'⟩ := perform_use_of_some e h
      rw [hr]
      refine .kept h nofun ?_
      rw [hp', Deed.through?, if_pos rfl]
      rfl
    · rw [perform, h]
      dsimp only
      rw [if_neg hm]
      refine .kept h nofun ?_
      rw [h, Deed.through?, if_neg (Ne.symm hm)]
      rfl
  | trace directives format =>
    obtain ⟨hr, hp'⟩ := perform_trace directives format p
    exact .kept h (fun n hn => absurd hn (hr n)) (hp'.trans h)

lemma performed (p : Program) (d : Deed) : Performed p d (p.perform d).1 (p.perform d).2 := by
  cases h : p.installed with
  | none => exact performed_of_none d h
  | some m => exact performed_of_some d h

end Program

/-! ### What a course keeps to -/

namespace Course

variable {ds : List Deed}

/-- Where there is a monitor, all that comes later does to it what comes through its handle. -/
lemma installed_after_append {m : Installed} (h : (after ds).program.installed = some m)
    (later : List Deed) :
    (after (ds ++ later)).program.installed =
      some ⟨m.number, m.watch.run (later.filterMap (Deed.through? m.number))⟩ := by
  induction later using List.reverseRecOn with
  | nil => rw [List.append_nil, h, List.filterMap_nil, Watch.run_nil]
  | append_singleton later d ih =>
    rw [← List.append_assoc, after_concat, step]
    rcases Program.performed (after (ds ++ later)).program d with ⟨hp, -⟩ | ⟨hp, -⟩ | ⟨hp, -, hp'⟩
    · rw [ih] at hp
      contradiction
    · rw [ih] at hp
      contradiction
    · rw [ih] at hp
      obtain rfl := Option.some.inj hp
      rw [hp', List.filterMap_append, Watch.run_append]
      rfl

lemma installed_of_given {n : Nat} (h : (after ds).Given n) :
    ∃ w, (after ds).program.installed = some ⟨n, w⟩ := by
  induction ds using List.reverseRecOn with
  | nil =>
    obtain ⟨d, hd⟩ := h
    exact absurd hd List.not_mem_nil
  | append_singleton ds d ih =>
    obtain ⟨d', hd⟩ := h
    rw [after_concat, step] at hd ⊢
    rcases List.mem_append.mp hd with hd | hd
    · obtain ⟨w, hw⟩ := ih ⟨d', hd⟩
      have hlater := installed_after_append hw [d]
      rw [after_concat, step] at hlater
      exact ⟨_, hlater⟩
    · have hn := (Prod.mk.inj (List.mem_singleton.mp hd)).2.symm
      rcases Program.performed (after ds).program d with
        ⟨-, -, hr, hp', -⟩ | ⟨-, -, hr, -⟩ | ⟨-, hr, hp'⟩
      · rw [hn] at hr
        obtain rfl := Reply.handle.inj hr
        exact ⟨_, hp'⟩
      · exact absurd hn (hr n)
      · obtain ⟨-, rfl⟩ := hr n hn
        exact ⟨_, hp'⟩

lemma limits_after (ds : List Deed) :
    (after ds).program.installed.map (fun m => m.watch.renderer) =
      (ds.findSome? Deed.limits?).map Renderer.html := by
  induction ds using List.reverseRecOn with
  | nil => rfl
  | append_singleton ds d ih =>
    rw [after_concat, step, List.findSome?_append]
    rcases Program.performed (after ds).program d with
      ⟨hp, ho, -, hp', hw⟩ | ⟨hp, ho, -, hp'⟩ | ⟨hp, -, hp'⟩
    · rw [hp, Option.map_none] at ih
      have hnone := Option.map_eq_none_iff.mp ih.symm
      rw [hp', hnone, Option.none_or, List.findSome?_singleton, ho, Option.map_some, hw,
        Option.map_some]
    · rw [hp, Option.map_none] at ih
      have hnone := Option.map_eq_none_iff.mp ih.symm
      rw [hp', hnone, Option.none_or, List.findSome?_singleton, ho]
      rfl
    · rw [hp, Option.map_some] at ih
      obtain ⟨o, ho, hr⟩ := Option.map_eq_some_iff.mp ih.symm
      rw [hp', ho, Option.some_or, Option.map_some, Watch.renderer_run, ← hr, Option.map_some]

lemma handle_of_installs {d : Deed} {r : Reply} (h : installs (d, r) = true) :
    d ≠ .ask ∧ ∃ n, r = .handle n := by
  unfold installs at h
  split at h
  · next n he =>
    obtain ⟨rfl, rfl⟩ := Prod.mk.inj he
    exact ⟨nofun, n, rfl⟩
  · contradiction

lemma installs_eq_false {d : Deed} {r : Reply} (h : ∀ n, r = .handle n → d = .ask) :
    installs (d, r) = false := by
  refine Bool.eq_false_iff.mpr fun hi => ?_
  obtain ⟨hd, n, hn⟩ := handle_of_installs hi
  exact hd (h n hn)

/-- The deed that opens the monitor is the only one that can have installed it. -/
lemma length_installs_after (ds : List Deed) :
    ((after ds).said.filter installs).length ≤ 1 := by
  induction ds using List.reverseRecOn with
  | nil => exact Nat.zero_le 1
  | append_singleton ds d ih =>
    rw [after_concat, step, List.filter_append, List.length_append]
    rcases Program.performed (after ds).program d with ⟨hp, -⟩ | ⟨-, -, hr, -⟩ | ⟨-, hr, -⟩
    · have hbefore : (after ds).said.filter installs = [] := by
        refine List.filter_eq_nil_iff.mpr ?_
        rintro ⟨d', r⟩ hx hi
        obtain ⟨-, n, rfl⟩ := handle_of_installs hi
        obtain ⟨w, hw⟩ := installed_of_given ⟨d', hx⟩
        rw [hp] at hw
        contradiction
      rw [hbefore, List.length_nil, Nat.zero_add]
      exact List.length_filter_le _ _
    · have hnow := installs_eq_false (d := d) fun n hn => absurd hn (hr n)
      rw [List.filter_singleton, hnow]
      exact ih
    · have hnow := installs_eq_false (d := d) fun n hn => (hr n hn).1
      rw [List.filter_singleton, hnow]
      exact ih

lemma installed_eq_none_iff (ds : List Deed) :
    (after ds).program.installed = none ↔ ds.findSome? Deed.limits? = none := by
  rw [← Option.map_eq_none_iff (f := fun m : Installed => m.watch.renderer), limits_after,
    Option.map_eq_none_iff]

/-- What holds of the monitor when all this has been done, and of whatever is done next. -/
structure SingleMonitor (ds : List Deed) : Prop where
  handles : ∀ n, (after ds).Given n → ∃ w, (after ds).program.installed = some ⟨n, w⟩
  same : ∀ n n', (after ds).Given n → (after ds).Given n' → n = n'
  once : ((after ds).said.filter installs).length ≤ 1
  limits : (after ds).program.installed.map (fun m => m.watch.renderer) =
    (ds.findSome? Deed.limits?).map Renderer.html
  ask : ∃ n w, ((after ds).program.perform .ask).1 = .handle n ∧
    ((after ds).program.perform .ask).2.installed = some ⟨n, w⟩
  install_first : ds.findSome? Deed.limits? = none → ∀ c now, ∃ n w,
    ((after ds).program.perform (.install c now)).1 = .handle n ∧
      ((after ds).program.perform (.install c now)).2.installed = some ⟨n, w⟩ ∧
        w.monitor.isStarted = c.config.autoStart
  install_later : ds.findSome? Deed.limits? ≠ none → ∀ c now, ∃ e,
    ((after ds).program.perform (.install c now)).1 = .refused e ∧
      e.code = ⟨"config", "already_initialized"⟩ ∧
        ((after ds).program.perform (.install c now)).2.installed = (after ds).program.installed
  use : ∀ n e, (after ds).Given n → ∃ w, (after ds).program.installed = some ⟨n, w⟩ ∧
    ((after ds).program.perform (.use n e)).1 = .answer (w.react e).1 ∧
      ((after ds).program.perform (.use n e)).2.installed = some ⟨n, w.step e⟩
  later : ∀ m more, (after ds).program.installed = some m →
    (after (ds ++ more)).program.installed =
      some ⟨m.number, m.watch.run (more.filterMap (Deed.through? m.number))⟩

/-- **A program has one monitor.** Whatever is done in it, in whatever order, all handles stand
for one monitor, with the limits of the first deed that needed it. A configuration is installed
at most once, and only if nobody needed the monitor before; the monitor is then started exactly
if the configuration says so. Every other installation is refused, and leaves the monitor as it
is. -/
theorem after_singleMonitor (ds : List Deed) : SingleMonitor ds where
  handles _ hn := installed_of_given hn
  same n n' hn hn' := by
    obtain ⟨w, hw⟩ := installed_of_given hn
    obtain ⟨w', hw'⟩ := installed_of_given hn'
    rw [hw] at hw'
    exact congrArg Installed.number (Option.some.inj hw')
  once := length_installs_after ds
  limits := limits_after ds
  ask := by
    cases h : (after ds).program.installed with
    | none =>
      rw [Program.perform, Program.monitor_of_none h]
      exact ⟨_, _, rfl, rfl⟩
    | some m =>
      rw [Program.perform, Program.monitor_of_some h]
      exact ⟨_, _, rfl, h⟩
  install_first hds c now := by
    have hnone := (installed_eq_none_iff ds).mpr hds
    obtain ⟨hr, w, hp', -, hstarted⟩ := Program.perform_install_of_none c now hnone
    exact ⟨_, w, hr, hp', hstarted⟩
  install_later hds c now := by
    have hsome := fun h => hds ((installed_eq_none_iff ds).mp h)
    obtain ⟨m, hm⟩ := Option.ne_none_iff_exists'.mp hsome
    rw [Program.perform_install_of_some c now hm]
    exact ⟨_, rfl, rfl, rfl⟩
  use n e hn := by
    obtain ⟨w, hw⟩ := installed_of_given hn
    obtain ⟨hr, hp'⟩ := Program.perform_use_of_some e hw
    exact ⟨w, hw, hr, hp'⟩
  later _ more hm := installed_after_append hm more

example (c : ValidConfig) (now : Instant) :
    (after [.ask, .install c now, .ask]).said.map Prod.snd =
      [.handle 0, .refused Program.alreadyInstalled, .handle 0] := rfl

end Course

end CallWatch
