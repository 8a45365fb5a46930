import CallWatch.Proofs.Host.Commands
import CallWatch.Proofs.Monitor.Reports

/-!
Observing a host does not change what happens in it.

A report leaves HTML behind that was not kept before, and nothing else. Watches that differ only
in what they keep answer every event alike, because what is kept is right. So a world that acts
on a host, and goes by the replies it gets, does the same whatever else is observed in between.
-/

namespace CallWatch

open Registry

/-! ### Monitors without what they keep -/

namespace Monitor

variable {r : Renderer} {m : Monitor} {t : Thread} {now : Instant} {service : ServiceDescriptor}
  {pipeline : Pipeline} {state : Except Envelope InvokeState} {k : Option Ticket} {failed : Bool}

def bare (m : Monitor) : Monitor := { m with kept := [] }

lemma register_bare : m.bare.register t now service pipeline state =
    ((m.register t now service pipeline state).1,
      (m.register t now service pipeline state).2.bare) := by
  rcases hs : m.isStarted with _ | _
  · rw [register_of_stopped hs, register_of_stopped (m := m.bare) hs]
  · rcases state with e | st
    · rw [register_error, register_error]
    · rw [register_ok hs, register_ok (m := m.bare) hs]
      rfl

lemma complete_bare : m.bare.complete k failed = (m.complete k failed).bare := by
  rcases k with _ | k
  · rfl
  · by_cases he : k.epoch = m.epoch
    · rw [complete_of_eq he, complete_of_eq (m := m.bare) he]
      rfl
    · rw [complete_of_ne he, complete_of_ne (m := m.bare) he]

lemma start_bare : m.bare.start now = ((m.start now).1, (m.start now).2.bare) := by
  rcases hs : m.isStarted with _ | _
  · rw [start_of_stopped hs, start_of_stopped (m := m.bare) hs]
    rfl
  · rw [start_of_started hs, start_of_started (m := m.bare) hs]

lemma stop_bare : m.bare.stop = (m.stop.1, m.stop.2.bare) := by
  rcases hs : m.isStarted with _ | _
  · rw [stop_of_stopped hs, stop_of_stopped (m := m.bare) hs]
  · rw [stop_of_started hs, stop_of_started (m := m.bare) hs]
    rfl

lemma WellKept.bare (h : m.WellKept r) : m.bare.WellKept r :=
  ⟨h.sound, ⟨h.numbered.serial_lt, h.numbered.serial_nodup, by simp [Monitor.bare]⟩,
    by simp [Monitor.bare, Renderings.Right]⟩

/-- A report tells the same whatever is kept, if it is right. -/
lemma WellKept.report_bare (h : m.WellKept r) (now : Instant) :
    (m.bare.report r now).1 = (m.report r now).1 ∧ (m.report r now).2.bare = m.bare := by
  constructor
  · have hreports := (h.reports now).1.trans (h.bare.reports now).1.symm
    simp only [Monitor.report]
    rw [hreports]
    rfl
  · rw [report_of_sound r h.sound]
    rfl

end Monitor

/-! ### Watches -/

namespace Watch

/-- Two watches that differ only in the HTML that they keep, which is right. -/
structure Same (w w' : Watch) : Prop where
  renderer : w.renderer = w'.renderer
  unfinished : w.unfinished = w'.unfinished
  bare : w.monitor.bare = w'.monitor.bare
  left : w.monitor.WellKept w.renderer
  right : w'.monitor.WellKept w'.renderer

variable {w w' : Watch}

lemma Same.refl (h : w.monitor.WellKept w.renderer) : w.Same w := ⟨rfl, rfl, rfl, h, h⟩

lemma Same.symm (h : w.Same w') : w'.Same w :=
  ⟨h.renderer.symm, h.unfinished.symm, h.bare.symm, h.right, h.left⟩

/-- An answer that does not depend on what is kept. -/
lemma Same.of_bare {α : Type} (h : w.Same w') {f : Monitor → α × Monitor}
    (hf : ∀ m : Monitor, f m.bare = ((f m).1, (f m).2.bare)) :
    (f w.monitor).1 = (f w'.monitor).1 ∧ (f w.monitor).2.bare = (f w'.monitor).2.bare := by
  have he : f w.monitor.bare = f w'.monitor.bare := by rw [h.bare]
  rw [hf, hf, Prod.mk.injEq] at he
  exact he

lemma Same.of_monitor (h : w.Same w') {m m' : Monitor} (hb : m.bare = m'.bare)
    (hl : m.WellKept w.renderer) (hr : m'.WellKept w'.renderer) :
    Same { w with monitor := m } { w' with monitor := m' } :=
  ⟨h.renderer, h.unfinished, hb, hl, hr⟩

lemma Same.enter (h : w.Same w') (t : Thread) (service : ServiceDescriptor) (pipeline : Pipeline)
    (state : Except Envelope InvokeState) (now : Instant) :
    (w.enter t service pipeline state now).Same (w'.enter t service pipeline state now) := by
  obtain ⟨hticket, hbare⟩ := h.of_bare (f := Monitor.register t now service pipeline state)
    fun _ => Monitor.register_bare
  refine ⟨h.renderer, ?_, hbare, h.left.register, h.right.register⟩
  simp only [Watch.enter, hticket, h.unfinished]

lemma Same.leave (h : w.Same w') (n : Nat) (failed : Bool) :
    (w.leave n failed).Same (w'.leave n failed) := by
  have hu := congrFun h.unfinished n
  unfold Watch.leave
  rcases hks : w'.unfinished n with _ | ⟨k, ks⟩ <;> rw [hks] at hu <;> simp only [hu]
  · exact h
  · refine ⟨h.renderer, by rw [h.unfinished], ?_, h.left.complete, h.right.complete⟩
    simp only [← Monitor.complete_bare, h.bare]

lemma Same.report (h : w.Same w') (now : Instant) :
    (w.report now).1 = (w'.report now).1 ∧ (w.report now).2.Same (w'.report now).2 := by
  obtain ⟨htells, hbare⟩ := h.left.report_bare now
  obtain ⟨htells', hbare'⟩ := h.right.report_bare now
  refine ⟨?_, h.of_monitor ?_ h.left.report h.right.report⟩
  · rw [Watch.report, Watch.report, ← htells, ← htells', h.bare, h.renderer]
  · rw [hbare, hbare', h.bare]

lemma Same.react (h : w.Same w') (e : Event) :
    (w.react e).1 = (w'.react e).1 ∧ (w.step e).Same (w'.step e) := by
  cases e with
  | enter t service pipeline state now => exact ⟨rfl, h.enter t service pipeline state now⟩
  | leave n failed => exact ⟨rfl, h.leave n failed⟩
  | start now =>
    obtain ⟨hb, hbare⟩ := h.of_bare (f := Monitor.start now) fun _ => Monitor.start_bare
    exact ⟨congrArg Answer.changed hb, h.of_monitor hbare h.left.start h.right.start⟩
  | stop =>
    obtain ⟨hb, hbare⟩ := h.of_bare (f := Monitor.stop) fun _ => Monitor.stop_bare
    exact ⟨congrArg Answer.changed hb, h.of_monitor hbare h.left.stop h.right.stop⟩
  | report now =>
    obtain ⟨hp, hs⟩ := h.report now
    exact ⟨congrArg Answer.reported hp, hs⟩

/-- A report that only one of them is asked for. -/
lemma Same.report_left (h : w.Same w') (now : Instant) : (w.report now).2.Same w' :=
  ⟨h.renderer, h.unfinished, (h.left.report_bare now).2.trans h.bare, h.left.report, h.right⟩

/-- A well-kept watch in which `P` holds for the frames of every thread. -/
structure Holds (P : Nat → Frame → Prop) (w : Watch) : Prop where
  wellKept : w.monitor.WellKept w.renderer
  stack : ∀ n, ∀ f ∈ stack n w.monitor.registry, P n f

/-- Frames stay as they are, on their threads; one that is new shows the call that begins. -/
lemma Holds.step {P : Nat → Frame → Prop} {e : Event} (h : w.Holds P)
    (he : ∀ t f state, e = .enter t f.service f.pipeline state f.startedAt → P t.number f) :
    (w.step e).Holds P := by
  refine ⟨renderer_step w e ▸ wellKept_step h.wellKept e, fun n f hf => ?_⟩
  rcases w.monitor_step e with hm | ⟨t, service, pipeline, state, st, now, rfl, hm⟩ |
      ⟨m, failed, m', s, rfl, hm⟩ | ⟨now, rfl, hm⟩ | ⟨rfl, hm⟩ | ⟨now, rfl, hm⟩ <;> rw [hm] at hf
  · exact h.stack n f hf
  · by_cases hn : n = t.number
    · subst hn
      rw [stack_push_same] at hf
      rcases List.mem_cons.mp hf with rfl | hf
      · exact he t _ state rfl
      · exact h.stack _ f hf
    · rw [stack_push_of_ne hn] at hf
      exact h.stack n f hf
  · by_cases hn : n = m'
    · subst hn
      rw [h.wellKept.sound.stack_pop_same] at hf
      exact h.stack n f (List.mem_of_mem_eraseP hf)
    · rw [stack_pop_of_ne hn] at hf
      exact h.stack n f hf
  · exact nomatch hf
  · exact nomatch hf
  · rw [Monitor.report_of_sound _ h.wellKept.sound] at hf
    exact h.stack n f hf

end Watch

namespace Host

variable {ε : Type} {h h' : Host}

/-- Two hosts that differ only in the HTML that their monitors keep. -/
abbrev Same : Host → Host → Prop := Related Watch.Same

lemma respects_same (c : Command ε) : c.Respects Watch.Same where
  react _ _ e _ hw := hw.react e
  counters _ _ hw :=
    ⟨(congrArg Monitor.invocations hw.bare :), (congrArg Monitor.errors hw.bare :)⟩
  registry _ _ hw := (congrArg Monitor.registry hw.bare :)

lemma Same.observe_left (hs : h.Same h') (o : Observation) : (h.observe o).2.Same h' := by
  cases o with
  | report i now | snapshot i now =>
    simp only [observe, report?]
    rcases hm : h.members[i]? with _ | m
    · exact hs
    · exact hs.setWatch_left (fun w w' hw => hw.report_left now) i
  | restore i p => exact hs

lemma Same.symm (hs : h.Same h') : h'.Same h where
  members := (hs.members.imp fun _ _ hm => ⟨hm.watch.symm, hm.fixed.symm⟩).flip
  chain := hs.chain.symm
  ambient := hs.ambient.symm
  levels := hs.levels.symm

def observeAll (h : Host) (os : List Observation) : Host := os.foldl (fun h o => (h.observe o).2) h

lemma Same.observeAll_left (hs : h.Same h') (os : List Observation) :
    (h.observeAll os).Same h' := by
  induction os generalizing h with
  | nil => exact hs
  | cons o os ih => exact ih (hs.observe_left o)

lemma Same.observeAll (hs : h.Same h') (os os' : List Observation) :
    (h.observeAll os).Same (h'.observeAll os') :=
  ((hs.observeAll_left os).symm.observeAll_left os').symm

/-! ### Plays -/

/-- The commands so far with their replies, latest first. -/
abbrev Transcript (ε : Type) := List (Command ε × Reply ε)

/-- A world that goes by the transcript gives `n` commands; what is observed before each and at
the end is `extra`, and the world does not hear of it. -/
def play (next : Transcript ε → Command ε) (extra : Transcript ε → List Observation) :
    Nat → Host → Transcript ε → Host × Transcript ε
  | 0, h, tr => (h.observeAll (extra tr), tr)
  | n + 1, h, tr =>
    let c := next tr
    let r := (h.observeAll (extra tr)).perform c
    play next extra n r.2 ((c, r.1) :: tr)

variable {next : Transcript ε → Command ε} {extra extra' : Transcript ε → List Observation}

lemma Same.play (hs : h.Same h') (n : Nat) (tr : Transcript ε) :
    (h.play next extra n tr).1.Same (h'.play next extra' n tr).1 ∧
      (h.play next extra n tr).2 = (h'.play next extra' n tr).2 := by
  induction n generalizing h h' tr with
  | zero => exact ⟨hs.observeAll _ _, rfl⟩
  | succ n ih =>
    have hseen := hs.observeAll (extra tr) (extra' tr)
    obtain ⟨hreply, hnext⟩ := hseen.perform (respects_same (next tr))
    simp only [Host.play, hreply]
    exact ih hnext _

/-! ### Frames -/

def EveryWatch (P : Nat → Frame → Prop) (h : Host) : Prop := ∀ m ∈ h.members, m.watch.Holds P

lemma Command.Causes.eq_enter {c : Command ε} {t : Thread} {service : ServiceDescriptor}
    {pipeline : Pipeline} {state : Except Envelope InvokeState} {now : Instant}
    (h : c.Causes (.enter t service pipeline state now)) : c = .enter t service pipeline now := by
  cases c with
  | enter t' service' pipeline' now' =>
    obtain ⟨state', he⟩ := h
    cases he
    rfl
  | observe o => cases o <;> exact nomatch h
  | _ => exact nomatch h

variable {P Q : Nat → Frame → Prop}

lemma EveryWatch.mono (hp : h.EveryWatch P) (hpq : ∀ n f, P n f → Q n f) : h.EveryWatch Q :=
  fun m hm => ⟨(hp m hm).wellKept, fun n f hf => hpq n f ((hp m hm).stack n f hf)⟩

/-- New frames come by calls only. -/
lemma respects_holds {c : Command ε}
    (hc : ∀ t f, c = .enter t f.service f.pipeline f.startedAt → P t.number f) :
    c.Respects fun w w' => w = w' ∧ w.Holds P where
  react := by
    rintro w _ e he ⟨rfl, hw⟩
    refine ⟨rfl, rfl, hw.step fun t f state hs => hc t f ?_⟩
    subst hs
    exact he.eq_enter
  counters := by
    rintro w _ ⟨rfl, -⟩
    exact ⟨rfl, rfl⟩
  registry := by
    rintro w _ ⟨rfl, -⟩
    rfl

lemma EveryWatch.perform {c : Command ε} (hp : h.EveryWatch P)
    (hc : ∀ t f, c = .enter t f.service f.pipeline f.startedAt → P t.number f) :
    (h.perform c).2.EveryWatch P := by
  have hr : Related (fun w w' => w = w' ∧ w.Holds P) h h :=
    ⟨List.forall₂_same.mpr fun m hm => ⟨⟨rfl, hp m hm⟩, rfl⟩, rfl, rfl, rfl⟩
  have hmembers := (hr.perform (respects_holds hc)).2.members
  exact fun m hm => (List.forall₂_same.mp hmembers m hm).watch.2

lemma EveryWatch.observeAll (hp : h.EveryWatch P) (os : List Observation) :
    (h.observeAll os).EveryWatch P := by
  induction os generalizing h with
  | nil => exact hp
  | cons o os ih => exact ih (hp.perform (c := (.observe o : Command Unit)) (by simp))

/-- The call that a frame shows is in the transcript, as it was made on its thread. -/
def Transcript.Shows (tr : Transcript ε) (n : Nat) (f : Frame) : Prop :=
  ∃ t reply, t.number = n ∧ (Command.enter t f.service f.pipeline f.startedAt, reply) ∈ tr

lemma EveryWatch.play (n : Nat) {tr : Transcript ε} (hp : h.EveryWatch tr.Shows) :
    (h.play next extra n tr).1.EveryWatch (h.play next extra n tr).2.Shows := by
  induction n generalizing h tr with
  | zero => exact hp.observeAll _
  | succ n ih =>
    refine ih ((hp.observeAll (extra tr)).mono ?_ |>.perform ?_)
    · rintro _ f ⟨t, reply, ht, hm⟩
      exact ⟨t, reply, ht, List.mem_cons_of_mem _ hm⟩
    · rintro t f hc
      exact ⟨t, _, rfl, List.mem_cons.mpr (.inl (Prod.ext hc.symm rfl))⟩

end Host

/-- **Observing changes nothing.** A world that gives commands to a host, and goes by all replies
so far, gives the same commands and gets the same replies whatever is observed in between, and in
the end the hosts differ at most in the HTML that their monitors keep. To restore a monitor is
always refused, and has no effect. And whenever a frame is read, the HTML is the rendering of the
pipeline with which its call was made, whatever has been written into the live one since. -/
theorem observing_changes_nothing {ε : Type} (specs : List (Renderer × Option InvokeState))
    (next : Host.Transcript ε → Host.Command ε)
    (extra : Host.Transcript ε → List Host.Observation) (n : Nat) :
    let h := Host.init (specs.map fun s => ⟨.init s.1, s.2⟩)
    let seen := h.play next extra n []
    let unseen := h.play next (fun _ => []) n []
    seen.2 = unseen.2 ∧ seen.1.Same unseen.1 ∧
      (∀ i p, seen.1.observe (.restore i p) =
        (seen.1.members[i]?.map fun _ => .error SnapshotKind.usageMonitor.restore, seen.1)) ∧
      (∀ m ∈ seen.1.members, ∀ k, ∀ f ∈ stack k m.watch.monitor.registry,
        (m.watch.monitor.kept.read m.watch.renderer f).1 =
          (m.watch.renderer f.pipeline).toOption ∧
        ∃ t reply, t.number = k ∧
          (.enter t f.service f.pipeline f.startedAt, reply) ∈ seen.2) := by
  intro h seen unseen
  have hnew : ∀ m ∈ h.members, m.watch.monitor.WellKept m.watch.renderer ∧
      m.watch.monitor.registry = [] := by
    intro m hm
    obtain ⟨s, -, rfl⟩ := List.mem_map.mp hm
    exact ⟨.init s.1, rfl⟩
  have hsame : h.Same h :=
    ⟨List.forall₂_same.mpr fun m hm => ⟨.refl (hnew m hm).1, rfl⟩, rfl, rfl, rfl⟩
  have hempty : h.EveryWatch (Host.Transcript.Shows ([] : Host.Transcript ε)) := by
    refine fun m hm => ⟨(hnew m hm).1, fun k f hf => ?_⟩
    rw [(hnew m hm).2] at hf
    exact nomatch hf
  have hplay : seen.1.Same unseen.1 ∧ seen.2 = unseen.2 := hsame.play n []
  refine ⟨hplay.2, hplay.1, fun _ _ => rfl, fun m hm k f hf => ?_⟩
  have hholds : m.watch.Holds seen.2.Shows := hempty.play n m hm
  have hframes : f ∈ m.watch.monitor.registry.frames := mem_frames_of_mem_stack hf
  exact ⟨(hholds.wellKept.right.read hholds.wellKept.numbered.serial_nodup hframes).1,
    hholds.stack k f hf⟩

end CallWatch
