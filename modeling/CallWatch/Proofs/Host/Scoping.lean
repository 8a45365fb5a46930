import CallWatch.Proofs.Host.Routines
import CallWatch.Proofs.Monitor.Registered

/-!
States follow dynamic scope.

What a machine has reached says, thread by thread, what is bound there, what every level is to
put back and what every monitor holds: all of it can be read off the blocks that the threads are
inside of. A step of a thread changes its own blocks at the top and nothing on other threads.
-/

namespace CallWatch

open Registry

variable {ε : Type}

/-! ### What hosts do to their members -/

lemma getElem?_foldl_modify {α : Type} (f : α → α) {is : List Nat} (h : is.Nodup) (xs : List α)
    (k : Nat) : (is.foldl (fun ys i => ys.modify i f) xs)[k]? =
      if k ∈ is then xs[k]?.map f else xs[k]? := by
  induction is generalizing xs with
  | nil => simp
  | cons i is ih =>
    obtain ⟨hi, his⟩ := List.nodup_cons.mp h
    rw [List.foldl_cons, ih his, List.getElem?_modify]
    by_cases hk : k = i
    · subst hk
      simp [hi]
    · simp [hk, Ne.symm hk]

namespace Host

variable {h : Host} {t : Thread} {service : ServiceDescriptor} {pipeline : Pipeline}
  {now : Instant} {n : Nat} {failed : Bool}

lemma foldl_enterOne (is : List Nat) (h : Host) :
    is.foldl (enterOne t service pipeline now) h = { h with
      members := is.foldl (fun ms i => ms.modify i fun m =>
        { m with watch := m.watch.enter t service pipeline (h.stateFor m t.number) now })
          h.members } := by
  induction is generalizing h with
  | nil => rfl
  | cons i is ih =>
    rw [List.foldl_cons, ih]
    rfl

lemma foldl_leaveOne (is : List Nat) (h : Host) :
    is.foldl (leaveOne n failed) h = { h with
      members := is.foldl (fun ms i => ms.modify i fun m =>
        { m with watch := m.watch.leave n failed }) h.members } := by
  induction is generalizing h with
  | nil => rfl
  | cons i is ih =>
    rw [List.foldl_cons, ih]
    rfl

lemma enter_eq : h.enter t service pipeline now = { h with
    members := h.chain.installed.foldl (fun ms i => ms.modify i fun m =>
      { m with watch := m.watch.enter t service pipeline (h.stateFor m t.number) now }) h.members
    levels := setAt h.levels t.number
      (.call pipeline h.chain.installed :: h.levels t.number) } := by
  rw [enter, foldl_enterOne, push]

lemma endLevel_scope {p : Option InvokeState} {rest : List Level}
    (hl : h.levels n = .scope p :: rest) : h.endLevel n failed = { h with
      ambient := ⟨setAt h.ambient.bound n p⟩
      levels := setAt h.levels n rest } := by
  simp [endLevel, hl, Ambient.restore]

lemma endLevel_call {p : Pipeline} {through : List Nat} {rest : List Level}
    (hl : h.levels n = .call p through :: rest) : h.endLevel n failed = { h with
      members := through.reverse.foldl (fun ms i => ms.modify i fun m =>
        { m with watch := m.watch.leave n failed }) h.members
      levels := setAt h.levels n rest } := by
  simp only [endLevel, hl]
  rw [foldl_leaveOne]

lemma toOption_stateFor (h : Host) (m : Member) (n : Nat) :
    (h.stateFor m n).toOption = m.fixed.or (h.ambient.bound n) := by
  unfold stateFor Ambient.current
  cases m.fixed with
  | some s => rfl
  | none => cases h.ambient.bound n <;> rfl

end Host

/-! ### What the blocks of a thread say -/

@[simp] lemma innermost_call {c : Running} {next : Outcome ε → Routine ε} {bs : List (Block ε)} :
    innermost (.call c next :: bs) = innermost bs := rfl

@[simp] lemma innermost_attempt {next : Outcome ε → Routine ε} {bs : List (Block ε)} :
    innermost (.attempt next :: bs) = innermost bs := rfl

/-- The levels of a host: every scope is to put back what is bound around it. -/
def levelsOf : List (Block ε) → List Level
  | [] => []
  | .scope _ _ :: bs => .scope (innermost bs) :: levelsOf bs
  | .call c _ :: bs => .call c.pipeline c.host.chain.installed :: levelsOf bs
  | .attempt _ :: bs => levelsOf bs

/-- What a call leaves with a monitor, going by the state that is bound around it. -/
def Running.registration? (c : Running) (i : Nat) (bound : Option InvokeState) :
    Option Registration :=
  c.host.members[i]?.bind fun mem =>
    mem.watch.monitor.registration? c.service c.pipeline (mem.fixed.or bound) c.now

/-- What the calls that go through monitor `i` have left with it. -/
def registrations (i : Nat) : List (Block ε) → List (Option Registration)
  | [] => []
  | .call c _ :: bs =>
    if i ∈ c.host.chain.installed then c.registration? i (innermost bs) :: registrations i bs
    else registrations i bs
  | .scope _ _ :: bs | .attempt _ :: bs => registrations i bs

lemma registrations_suffix (i : Nat) {bs bs' : List (Block ε)} (h : bs <:+ bs') :
    registrations i bs <:+ registrations i bs' := by
  induction bs' with
  | nil => rw [List.suffix_nil.mp h]
  | cons b bs' ih =>
    rcases List.suffix_cons_iff.mp h with rfl | hbs
    · exact List.suffix_refl _
    · have hsuffix := ih hbs
      cases b with
      | scope s next => exact hsuffix
      | attempt next => exact hsuffix
      | call c next =>
        rw [registrations]
        split_ifs
        · exact hsuffix.trans (List.suffix_cons _ _)
        · exact hsuffix

/-! ### Reachable machines -/

namespace Machine

/-- Everything in the host can be read off the blocks. -/
structure Scoped (m : Machine ε) : Prop where
  bound : ∀ n, m.host.ambient.bound n = innermost (m.blocks n)
  levels : ∀ n, m.host.levels n = levelsOf (m.blocks n)
  members : ∀ (i : Nat) (mem : Member), m.host.members[i]? = some mem →
    mem.watch.Records fun n => registrations i (m.blocks n)

variable {m : Machine ε} {n : Nat}

lemma scoped_init (specs : List (Renderer × Option InvokeState)) (programs : Nat → Routine ε) :
    (init specs programs).Scoped where
  bound _ := rfl
  levels _ := rfl
  members i mem hmem := by
    obtain ⟨s, -, rfl⟩ := Option.map_eq_some_iff.mp (List.getElem?_map ▸ hmem)
    exact .init s.1

namespace Scoped

variable {code : Routine ε} {bs : List (Block ε)} {h : Host}

/-- It is enough to say what happens on the thread that takes the step. -/
lemma goto (hm : m.Scoped)
    (hbound : h.ambient.bound = setAt m.host.ambient.bound n (innermost bs))
    (hlevels : h.levels = setAt m.host.levels n (levelsOf bs))
    (hmembers : ∀ (i : Nat) (mem : Member), h.members[i]? = some mem →
      mem.watch.Records (setAt (fun k => registrations i (m.blocks k)) n (registrations i bs))) :
    (m.goto n code bs h).Scoped := by
  have hblocks : (m.goto n code bs h).blocks = setAt m.blocks n bs := blocks_goto
  refine ⟨fun k => ?_, fun k => ?_, fun i mem hmem => ?_⟩
  · rw [host_goto, hblocks, hbound, funext hm.bound]
    exact (congrFun (comp_setAt innermost m.blocks n bs) k).symm
  · rw [host_goto, hblocks, hlevels, funext hm.levels]
    exact (congrFun (comp_setAt levelsOf m.blocks n bs) k).symm
  · rw [hblocks, comp_setAt (registrations i)]
    exact hmembers i mem hmem

/-- A step that no monitor sees. -/
lemma goto_unseen (hm : m.Scoped)
    (hbound : h.ambient.bound = setAt m.host.ambient.bound n (innermost bs))
    (hlevels : h.levels = setAt m.host.levels n (levelsOf bs))
    (hmembers : h.members = m.host.members)
    (hsame : ∀ i, registrations i (m.blocks n) = registrations i bs) :
    (m.goto n code bs h).Scoped := by
  refine hm.goto hbound hlevels fun i mem hmem => ?_
  rw [setAt_self (hsame i)]
  exact hm.members i mem (hmembers ▸ hmem)

lemma goto_host (hm : m.Scoped) (hbound : innermost (m.blocks n) = innermost bs)
    (hlevels : levelsOf (m.blocks n) = levelsOf bs)
    (hsame : ∀ i, registrations i (m.blocks n) = registrations i bs) :
    (m.goto n code bs m.host).Scoped :=
  hm.goto_unseen (setAt_self ((hm.bound n).trans hbound)).symm
    (setAt_self ((hm.levels n).trans hlevels)).symm rfl hsame

lemma enter (hm : m.Scoped) (t : Thread) (service : ServiceDescriptor) (pipeline : Pipeline)
    (now : Instant) (next : Outcome ε → Routine ε) :
    (m.goto t.number code (.call ⟨service, pipeline, now, m.host⟩ next :: m.blocks t.number)
      (m.host.enter t service pipeline now)).Scoped := by
  rw [Host.enter_eq]
  refine hm.goto ?_ ?_ fun i mem hmem => ?_
  · exact (setAt_self (hm.bound t.number)).symm
  · simp only [hm.levels t.number, levelsOf]
  · rw [getElem?_foldl_modify _ m.host.chain.nodup] at hmem
    rw [registrations]
    split_ifs at hmem ⊢ with hi
    · obtain ⟨mem, hat, rfl⟩ := Option.map_eq_some_iff.mp hmem
      have hrecords := (hm.members i mem hat).enter t service pipeline
        (m.host.stateFor mem t.number) now
      rw [Host.toOption_stateFor, hm.bound t.number] at hrecords
      simpa [Running.registration?, hat] using hrecords
    · rw [setAt_self rfl]
      exact hm.members i mem hmem

lemma endScope (hm : m.Scoped) {s : InvokeState} {next : Outcome ε → Routine ε}
    (hb : m.blocks n = .scope s next :: bs) (failed : Bool) :
    (m.goto n code bs (m.host.endLevel n failed)).Scoped := by
  have hl := hm.levels n
  rw [hb, levelsOf] at hl
  rw [Host.endLevel_scope hl]
  refine hm.goto_unseen rfl rfl rfl fun i => ?_
  rw [hb, registrations]

lemma endCall (hm : m.Scoped) {c : Running} {next : Outcome ε → Routine ε}
    (hb : m.blocks n = .call c next :: bs) (failed : Bool) :
    (m.goto n code bs (m.host.endLevel n failed)).Scoped := by
  have hl := hm.levels n
  rw [hb, levelsOf] at hl
  rw [Host.endLevel_call hl]
  refine hm.goto ?_ rfl fun i mem hmem => ?_
  · refine (setAt_self ?_).symm
    rw [hm.bound n, hb, innermost_call]
  · have hnodup := List.nodup_reverse.mpr c.host.chain.nodup
    simp only [getElem?_foldl_modify _ hnodup, List.mem_reverse] at hmem
    have hblock : registrations i (m.blocks n) = if i ∈ c.host.chain.installed then
        c.registration? i (innermost bs) :: registrations i bs else registrations i bs := by
      rw [hb, registrations]
    split_ifs at hmem hblock with hi
    · obtain ⟨mem, hat, rfl⟩ := Option.map_eq_some_iff.mp hmem
      exact (hm.members i mem hat).leave hblock failed
    · rw [setAt_self hblock]
      exact hm.members i mem hmem

lemma turn (hm : m.Scoped) (t : Thread) (now : Instant) : (m.turn t now).Scoped := by
  obtain ⟨code, h, bs, hturn, hturned⟩ := m.turn_cases t now
  rw [hturn]
  cases hturned with
  | idle => exact hm.goto_host rfl rfl fun _ => rfl
  | scope s next =>
    refine hm.goto_unseen rfl ?_ rfl fun _ => rfl
    simp only [Host.bind, Host.push, Ambient.bind, hm.bound, hm.levels, levelsOf]
  | call service pipeline next => exact hm.enter t service pipeline now next
  | attempt next => exact hm.goto_host rfl rfl fun _ => rfl
  | endScope hb o => exact hm.endScope hb o.failed
  | endCall hb o => exact hm.endCall hb o.failed
  | endAttempt hb =>
    exact hm.goto_host (by rw [hb, innermost_attempt]) (by rw [hb, levelsOf])
      fun i => by rw [hb, registrations]

/-- What is done to one monitor. -/
lemma setWatch (hm : m.Scoped) (i : Nat) {f : Watch → Watch}
    (hf : ∀ (w : Watch) rs, w.Records rs → (f w).Records rs) :
    Scoped { m with host := m.host.setWatch i f } where
  bound := hm.bound
  levels := hm.levels
  members k mem hmem := by
    simp only [Host.setWatch, List.getElem?_modify] at hmem
    split_ifs at hmem
    · obtain ⟨mem, hat, rfl⟩ := Option.map_eq_some_iff.mp hmem
      exact hf _ _ (hm.members k mem hat)
    · exact hm.members k mem (by simpa using hmem)

lemma step (hm : m.Scoped) (mv : Move) : (m.step mv).Scoped := by
  cases mv with
  | turn t now => exact hm.turn t now
  | start i now =>
    rw [Machine.step, Host.startMonitor]
    split
    · exact hm.setWatch i fun _ _ hw => hw.start now
    · exact hm
  | stop i =>
    rw [Machine.step, Host.stopMonitor]
    split
    · exact hm.setWatch i fun _ _ hw => hw.stop
    · exact hm
  | report i now =>
    rw [Machine.step, Host.report?]
    cases m.host.members[i]? with
    | none => exact hm
    | some mem => exact hm.setWatch i fun _ _ hw => hw.report now
  | install i => exact ⟨hm.bound, hm.levels, hm.members⟩
  | uninstall i => exact ⟨hm.bound, hm.levels, hm.members⟩

lemma run (hm : m.Scoped) (moves : List Move) : (m.run moves).Scoped := by
  induction moves using List.reverseRecOn with
  | nil => exact hm
  | append_singleton moves mv ih =>
    rw [run_append_singleton]
    exact ih.step mv

end Scoped

/-! ### Dynamic scope -/

structure DynamicallyScoped (m : Machine ε) : Prop where
  /-- What is bound on a thread is the state of the innermost scope that is open there. -/
  bound : ∀ n, m.host.ambient.bound n = innermost (m.blocks n)
  asked : ∀ (t : Thread) now next, (m.control t.number).code = .ask next →
    ((m.turn t now).control t.number).code = next (match innermost (m.blocks t.number) with
      | some s => .ok s
      | none => .error Ambient.unbound)
  /-- A scope that ends, with whatever outcome, leaves what was bound before it began. -/
  restores : ∀ (t : Thread) now s body next moves,
    (m.control t.number).code = .scope s body next → (m.turn t now).Stays moves t.number →
    let inside := (m.turn t now).run moves
    (inside.blocks t.number).length = ((m.turn t now).blocks t.number).length →
    ∀ o now', (inside.control t.number).code = .done o →
      (inside.turn t now').control t.number = ⟨.after o next, m.blocks t.number⟩ ∧
      (inside.turn t now').host.ambient.bound t.number = m.host.ambient.bound t.number
  isolates : ∀ mv n, (∀ t now, mv = .turn t now → t.number ≠ n) →
    (m.step mv).host.ambient.bound n = m.host.ambient.bound n
  /-- The frames of a thread are those of its open calls, as the scopes around them say. -/
  tracks : ∀ (i : Nat) (mem : Member), m.host.members[i]? = some mem → ∀ n,
    stack n mem.watch.monitor.registry =
      Registration.frames mem.watch.monitor.epoch (registrations i (m.blocks n))
  /-- A call is registered exactly if it begins inside of a scope. -/
  registers : ∀ (t : Thread) now service pipeline body next,
    (m.control t.number).code = .call service pipeline body next →
    ∀ (i : Nat) (mem : Member), m.host.members[i]? = some mem → i ∈ m.host.chain.installed →
      mem.fixed = none → mem.watch.monitor.isStarted = true →
    ∃ mem' : Member, (m.turn t now).host.members[i]? = some mem' ∧
      match innermost (m.blocks t.number) with
      | none => mem'.watch.monitor = mem.watch.monitor
      | some s =>
        mem'.watch.monitor.invocations = mem.watch.monitor.invocations + 1 ∧
        mem'.watch.monitor.registry.tracks t.number = true ∧
        stack t.number mem'.watch.monitor.registry =
          ⟨mem.watch.monitor.nextSerial, service, pipeline, s, now⟩ ::
            stack t.number mem.watch.monitor.registry
  /-- The frames of the calls that a thread does not leave stay as they are in their epoch. -/
  keeps : ∀ moves n, m.Stays moves n → ∀ (i : Nat) (mem mem' : Member),
    m.host.members[i]? = some mem → (m.run moves).host.members[i]? = some mem' →
    mem'.watch.monitor.epoch = mem.watch.monitor.epoch →
    stack n mem.watch.monitor.registry <:+ stack n mem'.watch.monitor.registry

namespace Scoped

variable {t : Thread} {now : Instant}

lemma asked (hm : m.Scoped) {next : Except Envelope InvokeState → Routine ε}
    (h : (m.control t.number).code = .ask next) :
    ((m.turn t now).control t.number).code = next (match innermost (m.blocks t.number) with
      | some s => .ok s
      | none => .error Ambient.unbound) := by
  have hbound := hm.bound t.number
  rw [turn_ask h, control_goto]
  cases hs : innermost (m.blocks t.number) with
  | none => simp only [Ambient.current, hbound.trans hs]
  | some s => simp only [Ambient.current, hbound.trans hs]

lemma restores (hm : m.Scoped) {s : InvokeState} {body : Routine ε}
    {next : Outcome ε → Routine ε} {moves : List Move}
    (h : (m.control t.number).code = .scope s body next)
    (hstays : (m.turn t now).Stays moves t.number) {inside : Machine ε}
    (hinside : (m.turn t now).run moves = inside)
    (hlength : (inside.blocks t.number).length = ((m.turn t now).blocks t.number).length)
    {o : Outcome ε} (now' : Instant) (hdone : (inside.control t.number).code = .done o) :
    (inside.turn t now').control t.number = ⟨.after o next, m.blocks t.number⟩ ∧
      (inside.turn t now').host.ambient.bound t.number = m.host.ambient.bound t.number := by
  have hblocks : inside.blocks t.number = .scope s next :: m.blocks t.number := by
    have hsuffix := hinside ▸ hstays.suffix
    rw [← hsuffix.eq_of_length hlength.symm, turn_scope h, blocks_goto, setAt_same]
  have hscoped : (inside.turn t now').Scoped := (hinside ▸ (hm.turn t now).run moves).turn t now'
  have hleft : inside.turn t now' = inside.goto t.number (.after o next) (m.blocks t.number)
      (inside.host.endLevel t.number o.failed) := turn_endScope hdone hblocks
  constructor
  · rw [hleft, control_goto]
  · calc (inside.turn t now').host.ambient.bound t.number
        = innermost ((inside.turn t now').blocks t.number) := hscoped.bound t.number
      _ = innermost (m.blocks t.number) := by rw [hleft, blocks_goto, setAt_same]
      _ = m.host.ambient.bound t.number := (hm.bound t.number).symm

lemma isolates (hm : m.Scoped) {mv : Move} (h : ∀ t now, mv = .turn t now → t.number ≠ n) :
    (m.step mv).host.ambient.bound n = m.host.ambient.bound n := by
  rw [(hm.step mv).bound, hm.bound, blocks_step_of_ne h]

lemma registers (hm : m.Scoped) {service : ServiceDescriptor} {pipeline : Pipeline}
    {body : Routine ε} {next : Outcome ε → Routine ε}
    (h : (m.control t.number).code = .call service pipeline body next) {i : Nat} {mem : Member}
    (hat : m.host.members[i]? = some mem) (hi : i ∈ m.host.chain.installed)
    (hfixed : mem.fixed = none) (hstarted : mem.watch.monitor.isStarted = true) :
    ∃ mem' : Member, (m.turn t now).host.members[i]? = some mem' ∧
      match innermost (m.blocks t.number) with
      | none => mem'.watch.monitor = mem.watch.monitor
      | some s =>
        mem'.watch.monitor.invocations = mem.watch.monitor.invocations + 1 ∧
        mem'.watch.monitor.registry.tracks t.number = true ∧
        stack t.number mem'.watch.monitor.registry =
          ⟨mem.watch.monitor.nextSerial, service, pipeline, s, now⟩ ::
            stack t.number mem.watch.monitor.registry := by
  have hstate := m.host.toOption_stateFor mem t.number
  rw [hfixed, Option.none_or, hm.bound] at hstate
  have hregistration : mem.watch.monitor.registration? service pipeline
      (m.host.stateFor mem t.number).toOption now = (innermost (m.blocks t.number)).map fun s =>
        ⟨mem.watch.monitor.epoch, mem.watch.monitor.nextSerial, service, pipeline, s, now⟩ := by
    rw [Monitor.registration?, if_pos hstarted, hstate]
  rw [turn_call h, host_goto, Host.enter_eq]
  simp only [getElem?_foldl_modify _ m.host.chain.nodup, if_pos hi, hat, Option.map_some]
  refine ⟨_, rfl, ?_⟩
  cases hs : innermost (m.blocks t.number) with
  | none =>
    rw [hs] at hregistration
    simp only [Watch.enter, Monitor.register_of_none hregistration]
  | some s =>
    rw [hs] at hregistration
    have hsound := (hm.members i mem hat).sound.push t
      ⟨mem.watch.monitor.nextSerial, service, pipeline, s, now⟩
    simp only [Watch.enter, Monitor.register_of_some hregistration]
    refine ⟨trivial, ?_, stack_push_same⟩
    rw [hsound.tracks_iff_stack, stack_push_same]
    exact List.cons_ne_nil _ _

lemma keeps (hm : m.Scoped) {moves : List Move} (hstays : m.Stays moves n) {i : Nat}
    {mem mem' : Member} (hat : m.host.members[i]? = some mem)
    (hat' : (m.run moves).host.members[i]? = some mem')
    (hepoch : mem'.watch.monitor.epoch = mem.watch.monitor.epoch) :
    stack n mem.watch.monitor.registry <:+ stack n mem'.watch.monitor.registry := by
  have hbefore := ((hm.members i mem hat).holding n).stack
  have hafter := (((hm.run moves).members i mem' hat').holding n).stack
  rw [hbefore, hafter, hepoch]
  exact (registrations_suffix i hstays.suffix).filterMap _

end Scoped

/-- **States follow dynamic scope.** Whatever programs the threads run, however their steps are
interleaved and whatever is done with the monitors meanwhile: the state that is bound on a thread
is that of the innermost scope open there; the end of a scope, by a panic or not, brings back what
was bound before; other threads do not matter. A monitor that goes by these states registers and
counts a call exactly if it begins in a scope, and its frame has the state of the innermost one
for as long as the call runs. -/
theorem dynamicallyScoped_run (specs : List (Renderer × Option InvokeState))
    (programs : Nat → Routine ε) (moves : List Move) :
    ((init specs programs).run moves).DynamicallyScoped := by
  have hm := (scoped_init specs programs).run moves
  refine ⟨hm.bound, fun _ _ _ => hm.asked, ?_, fun _ _ => hm.isolates, ?_, ?_, ?_⟩
  · intro t now s body next moves h hstays inside hlength o now' hdone
    exact hm.restores h hstays rfl hlength now' hdone
  · intro i mem hat n
    exact ((hm.members i mem hat).holding n).stack
  · intro t now service pipeline body next h i mem hat hi hfixed hstarted
    exact hm.registers h hat hi hfixed hstarted
  · intro moves n hstays i mem mem' hat hat' hepoch
    exact hm.keeps hstays hat hat' hepoch

-- a panic ends the inner scope and is caught in the outer one, which goes on
example (s s' : InvokeState) (now : Instant) :
    let inner : Routine Unit := .scope s' (.done (.panic "boom")) .done
    let m := init [] fun _ => .scope s (.attempt inner fun _ => .done .ok) .done
    let bound n := (m.run (List.replicate n (.turn ⟨0, "main"⟩ now))).host.ambient.bound 0
    bound 3 = some s' ∧ bound 4 = some s ∧ bound 5 = some s ∧ bound 6 = none :=
  ⟨rfl, rfl, rfl, rfl⟩

end Machine

end CallWatch
