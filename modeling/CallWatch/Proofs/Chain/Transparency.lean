import CallWatch.Chain.Basic
import CallWatch.Demo
import Mathlib.Tactic.Lemma
import Mathlib.Tactic.Common

/-!
A monitor in a chain is not noticed by the rest of it.

Two calls are compared by what is outside of the monitor: the pipeline, the status, and what
`rest` shows of the world. Processors and handlers that do not look at the monitor take calls
that are the same outside to calls that are the same outside. The monitor itself changes
nothing outside, lets every call go on and hands back the outcome that it gets. So two chains,
with the monitor and without it, agree from the handler outwards, processor by processor; only
the processors before the monitor are shown one more processor to go.
-/

namespace CallWatch

variable {ω ρ ε κ : Type}

/-! ### What is compared -/

/-- A call with only what `rest` shows of its world. -/
def Call.outside (rest : ω → ρ) (c : Call ω) : Call ρ := ⟨c.pipeline, c.status, rest c.world⟩

lemma Call.outside_eq {rest : ω → ρ} {c d : Call ω} : c.outside rest = d.outside rest ↔
    c.pipeline = d.pipeline ∧ c.status = d.status ∧ rest c.world = rest d.world := by
  simp [outside]

/-- Two results of a call that are the same outside. -/
structure SameEnd (rest : ω → ρ) (r r' : Outcome ε × Call ω) : Prop where
  outcome : r.1 = r'.1
  outside : r.2.outside rest = r'.2.outside rest

/-- Two processors that both end the call, in the same way, or both let it go on, and then do
the same outside with the same outcome. -/
inductive Entry.Same (rest : ω → ρ) : Entry ω ε → Entry ω ε → Prop
  | stop (o : Outcome ε) : Same rest (.stop o) (.stop o)
  | proceed {leave leave' : Outcome ε → Call ω → Outcome ε × Call ω}
      (h : ∀ o c d, c.outside rest = d.outside rest → SameEnd rest (leave o c) (leave' o d)) :
      Same rest (.proceed leave) (.proceed leave')

/-- A handler to which calls are the same that are the same outside. -/
def Handler.Blind (rest : ω → ρ) (h : Handler ω ε) : Prop :=
  ∀ service c d, c.outside rest = d.outside rest → SameEnd rest (h service c) (h service d)

namespace Processor

/-- With `n` processors to go `p` does what `q` does with `m` to go. -/
def SameAt (rest : ω → ρ) (n m : Nat) (p q : Processor ω ε) : Prop :=
  ∀ service c d, c.outside rest = d.outside rest →
    Entry.Same rest (p service n c).1 (q service m d).1 ∧
      (p service n c).2.outside rest = (q service m d).2.outside rest

/-- A processor to which calls are the same that are the same outside. -/
def Blind (rest : ω → ρ) (p : Processor ω ε) : Prop := ∀ n, SameAt rest n n p p

/-- A processor that is shown one more processor to go than there is. -/
def shownOneMore (p : Processor ω ε) : Processor ω ε := fun service n c => p service (n + 1) c

end Processor

/-- A processor in a chain and the name under which its effects are listed, if they are. -/
abbrev Link (κ ω ε : Type) := Option κ × Processor ω ε

/-- What a processor or the handler made of a call: how it had ended by then, if it had, and
the call as it was outside. -/
structure Effect (κ ε ρ : Type) where
  /-- The name of the processor; none for the handler. -/
  actor : Option κ
  ended : Option (Outcome ε)
  call : Call ρ

namespace Link

def named (l : κ × Processor ω ε) : Link κ ω ε := (some l.1, l.2)

def unnamed (p : Processor ω ε) : Link κ ω ε := (none, p)

def run (service : ServiceDescriptor) (h : Handler ω ε) (ls : List (Link κ ω ε)) :
    Call ω → Outcome ε × Call ω :=
  Processor.run service h (ls.map Prod.snd)

/-- The effect of a processor, if it has a name. -/
def note (rest : ω → ρ) (k : Option κ) (ended : Option (Outcome ε)) (c : Call ω) :
    List (Effect κ ε ρ) :=
  k.toList.map fun k => ⟨some k, ended, c.outside rest⟩

/-- The effects of a run in their order. -/
def effects (rest : ω → ρ) (service : ServiceDescriptor) (h : Handler ω ε) :
    List (Link κ ω ε) → Call ω → List (Effect κ ε ρ)
  | [], c => [⟨none, some (h service c).1, (h service c).2.outside rest⟩]
  | (k, p) :: ls, c =>
    match p service ls.length c with
    | (.stop o, c) => note rest k (some o) c
    | (.proceed leave, c) =>
      let r := run service h ls c
      let l := leave r.1 r.2
      note rest k none c ++ effects rest service h ls c ++ note rest k (some l.1) l.2

/-- Two chains through which the same call has the same end and the same effects. -/
def Agree (rest : ω → ρ) (service : ServiceDescriptor) (h : Handler ω ε)
    (ls ls' : List (Link κ ω ε)) : Prop :=
  ∀ c d, c.outside rest = d.outside rest →
    SameEnd rest (run service h ls c) (run service h ls' d) ∧
      effects rest service h ls c = effects rest service h ls' d

/-! ### Runs, processor by processor -/

variable {rest : ω → ρ} {service : ServiceDescriptor} {h : Handler ω ε} {ls ls' : List (Link κ ω ε)}
  {k : Option κ} {p q : Processor ω ε} {o : Outcome ε} {c c' d : Call ω}
  {leave : Outcome ε → Call ω → Outcome ε × Call ω}

lemma run_stop (hp : p service ls.length c = (.stop o, c')) :
    run service h ((k, p) :: ls) c = (o, c') := by
  simp [run, Processor.run, hp]

lemma run_proceed (hp : p service ls.length c = (.proceed leave, c')) :
    run service h ((k, p) :: ls) c = leave (run service h ls c').1 (run service h ls c').2 := by
  simp [run, Processor.run, hp]

lemma effects_stop (hp : p service ls.length c = (.stop o, c')) :
    effects rest service h ((k, p) :: ls) c = note rest k (some o) c' := by
  simp [effects, hp]

lemma effects_proceed (hp : p service ls.length c = (.proceed leave, c')) :
    effects rest service h ((k, p) :: ls) c =
      note rest k none c' ++ effects rest service h ls c' ++
        note rest k (some (run service h ((k, p) :: ls) c).1)
          (run service h ((k, p) :: ls) c).2 := by
  rw [run_proceed hp]
  simp [effects, hp]

lemma note_congr (k : Option κ) {ended ended' : Option (Outcome ε)} (he : ended = ended')
    (hcd : c.outside rest = d.outside rest) : note rest k ended c = note rest k ended' d := by
  unfold note
  rw [he, hcd]

lemma agree_nil (hh : h.Blind rest) : Agree rest service h ([] : List (Link κ ω ε)) [] := by
  intro c d hcd
  have hend := hh service c d hcd
  refine ⟨hend, ?_⟩
  rw [effects, effects, hend.outcome, hend.outside]

lemma Agree.cons (ha : Agree rest service h ls ls') (k : Option κ)
    (hpq : Processor.SameAt rest ls.length ls'.length p q) :
    Agree rest service h ((k, p) :: ls) ((k, q) :: ls') := by
  intro c d hcd
  obtain ⟨hentry, hcall⟩ := hpq service c d hcd
  rcases hp : p service ls.length c with ⟨x, c'⟩
  rcases hq : q service ls'.length d with ⟨y, d'⟩
  rw [hp, hq] at hentry hcall
  cases hentry with
  | stop o =>
    rw [run_stop hp, run_stop hq, effects_stop hp, effects_stop hq]
    exact ⟨⟨rfl, hcall⟩, note_congr k rfl hcall⟩
  | proceed hleave =>
    obtain ⟨hrun, heffects⟩ := ha c' d' hcall
    have hend : SameEnd rest (run service h ((k, p) :: ls) c)
        (run service h ((k, q) :: ls') d) := by
      rw [run_proceed hp, run_proceed hq, hrun.outcome]
      exact hleave _ _ _ hrun.outside
    refine ⟨hend, ?_⟩
    rw [effects_proceed hp, effects_proceed hq, heffects, note_congr k rfl hcall,
      note_congr k (congrArg some hend.outcome) hend.outside]

/-- The monitor hands back the outcome of the rest of the chain, and completes the call with
it. -/
lemma run_monitor (s : Monitor.Site ω) :
    run service h ((k, Monitor.processor s) :: ls) c =
      let r := (s.monitor c.world).register (s.thread c.world) (s.now c.world) service c.pipeline
        (s.state c.world)
      let o := run service h ls { c with world := s.update r.2 c.world }
      (o.1, { o.2 with
        world := s.update ((s.monitor o.2.world).complete r.1 o.1.failed) o.2.world }) := rfl

lemma Agree.monitor (s : Monitor.Site ω) (hs : ∀ m w, rest (s.update m w) = rest w)
    (ha : Agree rest service h ls ls') :
    Agree rest service h (unnamed (Monitor.processor s) :: ls) ls' := by
  intro c d hcd
  set r := (s.monitor c.world).register (s.thread c.world) (s.now c.world) service c.pipeline
    (s.state c.world)
  have hupdate (m : Monitor) (c : Call ω) :
      Call.outside rest { c with world := s.update m c.world } = c.outside rest := by
    simp [Call.outside, hs]
  obtain ⟨hrun, heffects⟩ := ha { c with world := s.update r.2 c.world } d ((hupdate _ c).trans hcd)
  refine ⟨?_, ?_⟩
  · rw [unnamed, run_monitor]
    exact ⟨hrun.outcome, (hupdate _ _).trans hrun.outside⟩
  · rw [unnamed, effects_proceed rfl]
    simpa [note] using heffects

lemma agree_named {qs : List (κ × Processor ω ε)} (hh : h.Blind rest)
    (hqs : ∀ q ∈ qs, q.2.Blind rest) : Agree rest service h (qs.map named) (qs.map named) := by
  induction qs with
  | nil => exact agree_nil hh
  | cons q qs ih =>
    have ha := ih fun q' hq' => hqs q' (List.mem_cons_of_mem _ hq')
    exact ha.cons (some q.1) (hqs q List.mem_cons_self _)

/-- Processors before a chain that is longer by one, and others that do the same with one less
to go. -/
lemma Agree.append {f : Processor ω ε → Processor ω ε} {ps : List (κ × Processor ω ε)}
    (ha : Agree rest service h ls ls') (hl : ls.length = ls'.length + 1)
    (hf : ∀ p ∈ ps, ∀ n, Processor.SameAt rest (n + 1) n p.2 (f p.2)) :
    Agree rest service h (ps.map named ++ ls) (ps.map (fun p => named (p.1, f p.2)) ++ ls') := by
  induction ps with
  | nil => exact ha
  | cons p ps ih =>
    have hps := ih fun p' hp' => hf p' (List.mem_cons_of_mem _ hp')
    have hlen : (ps.map named ++ ls).length =
        (ps.map (fun p => named (p.1, f p.2)) ++ ls').length + 1 := by
      simp only [List.length_append, List.length_map, hl]
      omega
    refine hps.cons (some p.1) ?_
    rw [hlen]
    exact hf p List.mem_cons_self _

/-- A chain with the monitor in it and the chain without, in which the processors before it may
be others. -/
lemma agree_monitored {f : Processor ω ε → Processor ω ε} {ps qs : List (κ × Processor ω ε)}
    (s : Monitor.Site ω) (hs : ∀ m w, rest (s.update m w) = rest w) (hh : h.Blind rest)
    (hqs : ∀ q ∈ qs, q.2.Blind rest)
    (hf : ∀ p ∈ ps, ∀ n, Processor.SameAt rest (n + 1) n p.2 (f p.2)) :
    Agree rest service h (ps.map named ++ unnamed (Monitor.processor s) :: qs.map named)
      (ps.map (fun p => named (p.1, f p.2)) ++ qs.map named) :=
  ((agree_named hh hqs).monitor s hs).append rfl hf

end Link

/-- **Monitoring is transparent.** Every call through a chain with a monitor in it ends as it
does without, with the same pipeline, the same status and the same rest of the world, and all
others in the chain have the same effects in the same order, whatever state the monitor is in
and whatever the call finds there. The others must be blind to the monitor. Those before it are
shown one more processor to go; where they do not heed that, it makes no difference at all. -/
theorem monitoring_transparent (rest : ω → ρ) (s : Monitor.Site ω)
    (hs : ∀ m w, rest (s.update m w) = rest w) (h : Handler ω ε) (hh : h.Blind rest)
    (ps qs : List (κ × Processor ω ε)) (hps : ∀ p ∈ ps, p.2.Blind rest)
    (hqs : ∀ q ∈ qs, q.2.Blind rest) (service : ServiceDescriptor) :
    let monitored := ps.map Link.named ++ Link.unnamed (Monitor.processor s) :: qs.map Link.named
    let shown := ps.map (fun p => Link.named (p.1, p.2.shownOneMore)) ++ qs.map Link.named
    Link.Agree rest service h monitored shown ∧
      ((∀ p ∈ ps, ∀ n, Processor.SameAt rest (n + 1) n p.2 p.2) →
        Link.Agree rest service h monitored ((ps ++ qs).map Link.named)) := by
  intro monitored shown
  refine ⟨Link.agree_monitored s hs hh hqs fun p hp n => hps p hp (n + 1), fun hps' => ?_⟩
  rw [List.map_append]
  exact Link.agree_monitored (f := id) s hs hh hqs hps'

/-- A processor that only leaves a trace. -/
def Processor.tracing (name : String) : Processor (Monitor × List String) ε := fun _ _ c =>
  (.proceed fun o c => (o, { c with world := (c.world.1, (name ++ ":after") :: c.world.2) }),
    { c with world := (c.world.1, (name ++ ":before") :: c.world.2) })

lemma Processor.sameAt_tracing (name : String) (n m : Nat) : SameAt Prod.snd n m
    (tracing name : Processor (Monitor × List String) ε) (tracing name) := by
  intro service c d hcd
  have hnote (entry : String) {c d : Call (Monitor × List String)}
      (hcd : c.outside Prod.snd = d.outside Prod.snd) :
      Call.outside Prod.snd { c with world := (c.world.1, entry :: c.world.2) } =
        Call.outside Prod.snd { d with world := (d.world.1, entry :: d.world.2) } := by
    obtain ⟨hpipeline, hstatus, htrace⟩ := Call.outside_eq.mp hcd
    exact Call.outside_eq.mpr ⟨hpipeline, hstatus, congrArg (entry :: ·) htrace⟩
  exact ⟨.proceed fun o c d hcd => ⟨rfl, hnote _ hcd⟩, hnote _ hcd⟩

/-- A call that fails, between two traces, through a monitor that is started and registers it
and without any. -/
theorem monitoring_transparent_traced :
    let s : Monitor.Site (Monitor × List String) :=
      ⟨Prod.fst, fun m w => (m, w.2), fun _ => Demo.thread 0, fun _ => .epoch,
        fun _ => .ok (Demo.state 0)⟩
    let h : Handler (Monitor × List String) String := fun _ c => (.err "no", c)
    let run := Link.run (Demo.service 1) h
    let outer : Link String _ _ := Link.named ("outer", Processor.tracing "outer")
    let inner : Link String _ _ := Link.named ("inner", Processor.tracing "inner")
    let world := ((Monitor.init.start .epoch).2, [])
    SameEnd Prod.snd
      (run [outer, Link.unnamed (Monitor.processor s), inner] ⟨.empty, .fresh, world⟩)
      (run [outer, inner] ⟨.empty, .fresh, world⟩) := by
  intro s h run outer inner world
  have hh : h.Blind Prod.snd := fun _ _ _ hcd => ⟨rfl, hcd⟩
  have hblind (name : String) : ∀ p ∈ [(name, (Processor.tracing name : Processor _ String))],
      ∀ n m, Processor.SameAt Prod.snd n m p.2 p.2 := fun p hp n m => by
    rw [List.mem_singleton.mp hp]
    exact Processor.sameAt_tracing name n m
  have hplain := (monitoring_transparent Prod.snd s (fun _ _ => rfl) h hh _ _
    (fun p hp n => hblind "outer" p hp n n) (fun q hq n => hblind "inner" q hq n n)
    (Demo.service 1)).2 fun p hp n => hblind "outer" p hp (n + 1) n
  exact (hplain _ _ rfl).1

/-! ### Installed chains -/

lemma Handler.Blind.marking {rest : ω → ρ} {h : Handler ω ε} (hh : h.Blind rest) :
    h.marking.Blind rest := by
  intro service c d hcd
  have hend := hh service c d hcd
  unfold Handler.marking
  rcases hc : h service c with ⟨o, c'⟩
  rcases hd : h service d with ⟨o', d'⟩
  rw [hc, hd] at hend
  obtain ⟨rfl, houtside⟩ := hend
  obtain ⟨hpipeline, -, hrest⟩ := Call.outside_eq.mp houtside
  cases o with
  | ok => exact ⟨rfl, Call.outside_eq.mpr ⟨hpipeline, rfl, hrest⟩⟩
  | err e => exact ⟨rfl, Call.outside_eq.mpr ⟨hpipeline, rfl, hrest⟩⟩
  | panic payload => exact ⟨rfl, houtside⟩

/-- A chain whose monitor `m` is not seen from outside: what is outside holds the rest of the
chain, and the other processors are blind and do not heed how many there are to go. -/
structure Chain.Hides [DecidableEq κ] (rest : ω → ρ) (chainOf : ω → Chain κ)
    (behaviour : κ → Processor ω ε) (s : Monitor.Site ω) (m : κ) : Prop where
  update : ∀ x w, rest (s.update x w) = rest w
  monitor : behaviour m = Monitor.processor s
  others : ∀ k, k ≠ m → ∀ n n', Processor.SameAt rest n n' (behaviour k) (behaviour k)
  installed : ∀ w w', rest w = rest w' →
    (chainOf w).installed.erase m = (chainOf w').installed.erase m

section

variable [DecidableEq κ] {rest : ω → ρ} {chainOf : ω → Chain κ} {behaviour : κ → Processor ω ε}
  {s : Monitor.Site ω} {m : κ} {h : Handler ω ε}

/-- The processors of a chain, all with names but the monitor. -/
def Chain.links (behaviour : κ → Processor ω ε) (m : κ) (ks : List κ) : List (Link κ ω ε) :=
  ks.map fun k => (if k = m then none else some k, behaviour k)

lemma Chain.run_links (service : ServiceDescriptor) (ks : List κ) :
    Link.run service h (links behaviour m ks) = Processor.run service h (ks.map behaviour) := by
  unfold Link.run links
  rw [List.map_map]
  rfl

lemma Chain.Hides.agree_filter (hm : Hides rest chainOf behaviour s m) (hh : h.Blind rest)
    (service : ServiceDescriptor) (ks : List κ) : Link.Agree rest service h (links behaviour m ks)
      (links behaviour m (ks.filter (· != m))) := by
  induction ks with
  | nil => exact Link.agree_nil hh
  | cons k ks ih =>
    by_cases hk : k = m
    · subst hk
      have ha := ih.monitor s hm.update
      rw [List.filter_cons_of_neg (by simp)]
      simpa [links, Link.unnamed, hm.monitor] using ha
    · have ha := ih.cons (some k) (hm.others k hk _ _)
      rw [List.filter_cons_of_pos (by simpa using hk)]
      simpa [links, hk] using ha

lemma Chain.Hides.run (hm : Hides rest chainOf behaviour s m) (hh : h.Blind rest)
    (service : ServiceDescriptor) {ks : List κ} (hks : ks.Nodup) {c d : Call ω}
    (hcd : c.outside rest = d.outside rest) :
    SameEnd rest (Processor.run service h (ks.map behaviour) c)
      (Processor.run service h ((ks.erase m).map behaviour) d) := by
  have hend := (hm.agree_filter hh service ks c d hcd).1
  rw [run_links, run_links, ← hks.erase_eq_filter] at hend
  exact hend

/-- A call through the installed chain ends in the same way wherever the monitor stands in it,
and if it does not. -/
theorem Chain.Hides.invoke (hm : Hides rest chainOf behaviour s m) (hh : h.Blind rest)
    (service : ServiceDescriptor) {c d : Call ω} (hcd : c.outside rest = d.outside rest) :
    SameEnd rest (Chain.invoke chainOf behaviour h service c)
      (Chain.invoke chainOf behaviour h service d) := by
  obtain ⟨-, -, hrest⟩ := Call.outside_eq.mp hcd
  have hc := hm.run hh.marking service (chainOf c.world).nodup (rfl : c.outside rest = _)
  have hd := hm.run hh.marking service (chainOf d.world).nodup hcd.symm
  rw [← hm.installed c.world d.world hrest] at hd
  exact ⟨hc.outcome.trans hd.outcome.symm, hc.outside.trans hd.outside.symm⟩

/-- So a handler that makes a call through the chain is blind, too, if the handler of that call
is. -/
theorem Chain.Hides.call (hm : Hides rest chainOf behaviour s m) (hh : h.Blind rest)
    (service : ServiceDescriptor) (pipeline : Pipeline) {w w' : ω} (hw : rest w = rest w') :
    (Chain.call chainOf behaviour h service pipeline w).1 =
        (Chain.call chainOf behaviour h service pipeline w').1 ∧
      (Chain.call chainOf behaviour h service pipeline w).2.1 =
        (Chain.call chainOf behaviour h service pipeline w').2.1 ∧
      rest (Chain.call chainOf behaviour h service pipeline w).2.2 =
        rest (Chain.call chainOf behaviour h service pipeline w').2.2 := by
  have hcd : Call.outside rest ⟨pipeline, .fresh, w⟩ = Call.outside rest ⟨pipeline, .fresh, w'⟩ :=
    Call.outside_eq.mpr ⟨rfl, rfl, hw⟩
  have hend := hm.invoke hh service hcd
  obtain ⟨hpipeline, -, hrest⟩ := Call.outside_eq.mp hend.outside
  exact ⟨hend.outcome, hpipeline, hrest⟩

end

end CallWatch
