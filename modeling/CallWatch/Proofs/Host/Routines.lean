import CallWatch.Host
import Mathlib.Data.List.Infix
import Mathlib.Tactic.Common
import Mathlib.Tactic.Lemma

/-!
Threads that run programs on a host.

A program is made of scopes, calls and attempts, which nest; each tells the program after it how it
ended. A panic ends the blocks around it one after the other, up to an attempt. A program may ask
for the state that is bound. A machine runs one program on every thread, a step of one thread at a
time, in any order, while the monitors are started, stopped and installed in between. Programs are
finite in depth, but whatever a thread does in finitely many steps is part of one.
-/

namespace CallWatch

/-! ### Programs -/

inductive Routine (ε : Type) where
  /-- The end of a block or of the program. -/
  | done (o : Outcome ε)
  | scope (s : InvokeState) (body : Routine ε) (next : Outcome ε → Routine ε)
  | call (service : ServiceDescriptor) (pipeline : Pipeline) (body : Routine ε)
    (next : Outcome ε → Routine ε)
  /-- A block out of which no panic gets. -/
  | attempt (body : Routine ε) (next : Outcome ε → Routine ε)
  | ask (next : Except Envelope InvokeState → Routine ε)

/-- A call, and the host as it was when the call began. -/
structure Running where
  service : ServiceDescriptor
  pipeline : Pipeline
  now : Instant
  host : Host

/-- A block that a thread is inside of, with what comes after it. -/
inductive Block (ε : Type) where
  | scope (s : InvokeState) (next : Outcome ε → Routine ε)
  | call (c : Running) (next : Outcome ε → Routine ε)
  | attempt (next : Outcome ε → Routine ε)

/-- What a thread is about to do, and the blocks around it, innermost first. -/
structure Control (ε : Type) where
  code : Routine ε
  blocks : List (Block ε)

variable {ε : Type}

/-- A panic goes on after a block that does not catch it. -/
def Routine.after (o : Outcome ε) (next : Outcome ε → Routine ε) : Routine ε :=
  match o with
  | .panic p => .done (.panic p)
  | o => next o

def Block.state? : Block ε → Option InvokeState
  | scope s _ => some s
  | _ => none

/-- The state of the innermost scope. -/
def innermost (bs : List (Block ε)) : Option InvokeState := bs.findSome? Block.state?

/-! ### Machines -/

structure Machine (ε : Type) where
  host : Host
  control : Nat → Control ε

inductive Move where
  /-- A step of a thread. -/
  | turn (t : Thread) (now : Instant)
  | start (i : Nat) (now : Instant)
  | stop (i : Nat)
  | report (i : Nat) (now : Instant)
  | install (i : Nat)
  | uninstall (i : Nat)

namespace Machine

def goto (m : Machine ε) (n : Nat) (code : Routine ε) (blocks : List (Block ε)) (h : Host) :
    Machine ε :=
  ⟨h, setAt m.control n ⟨code, blocks⟩⟩

/-- A step of a thread: it enters a block, asks, or ends the innermost block. -/
def turn (m : Machine ε) (t : Thread) (now : Instant) : Machine ε :=
  let n := t.number
  let bs := (m.control n).blocks
  match (m.control n).code with
  | .scope s body next => m.goto n body (.scope s next :: bs) (m.host.bind n s)
  | .call service pipeline body next =>
    m.goto n body (.call ⟨service, pipeline, now, m.host⟩ next :: bs)
      (m.host.enter t service pipeline now)
  | .attempt body next => m.goto n body (.attempt next :: bs) m.host
  | .ask next => m.goto n (next (m.host.ambient.current n)) bs m.host
  | .done o =>
    match bs with
    | [] => m
    | .scope _ next :: rest | .call _ next :: rest =>
      m.goto n (.after o next) rest (m.host.endLevel n o.failed)
    | .attempt next :: rest => m.goto n (next o) rest m.host

def step (m : Machine ε) : Move → Machine ε
  | .turn t now => m.turn t now
  | .start i now => { m with host := (m.host.startMonitor i now).2 }
  | .stop i => { m with host := (m.host.stopMonitor i).2 }
  | .report i now => { m with host := ((m.host.report? i now).map Prod.snd).getD m.host }
  | .install i => { m with host := (m.host.install i).2 }
  | .uninstall i => { m with host := (m.host.uninstall i).2 }

def run (m : Machine ε) (moves : List Move) : Machine ε := moves.foldl step m

/-- Every thread at the beginning of its program, outside of all blocks. -/
def init (specs : List (Renderer × Option InvokeState)) (programs : Nat → Routine ε) :
    Machine ε :=
  ⟨.init (specs.map fun s => ⟨.init s.1, s.2⟩), fun n => ⟨programs n, []⟩⟩

def blocks (m : Machine ε) (n : Nat) : List (Block ε) := (m.control n).blocks

/-! ### Steps -/

/-- What a step of a thread makes of the host and of the blocks around the thread. -/
inductive Turned (m : Machine ε) (t : Thread) (now : Instant) : Host → List (Block ε) → Prop
  /-- The thread asks, or it is at the end of its program. -/
  | idle : Turned m t now m.host (m.blocks t.number)
  | scope (s : InvokeState) (next : Outcome ε → Routine ε) :
    Turned m t now (m.host.bind t.number s) (.scope s next :: m.blocks t.number)
  | call (service : ServiceDescriptor) (pipeline : Pipeline) (next : Outcome ε → Routine ε) :
    Turned m t now (m.host.enter t service pipeline now)
      (.call ⟨service, pipeline, now, m.host⟩ next :: m.blocks t.number)
  | attempt (next : Outcome ε → Routine ε) :
    Turned m t now m.host (.attempt next :: m.blocks t.number)
  | endScope {s : InvokeState} {next : Outcome ε → Routine ε} {rest : List (Block ε)}
    (h : m.blocks t.number = .scope s next :: rest) (o : Outcome ε) :
    Turned m t now (m.host.endLevel t.number o.failed) rest
  | endCall {c : Running} {next : Outcome ε → Routine ε} {rest : List (Block ε)}
    (h : m.blocks t.number = .call c next :: rest) (o : Outcome ε) :
    Turned m t now (m.host.endLevel t.number o.failed) rest
  | endAttempt {next : Outcome ε → Routine ε} {rest : List (Block ε)}
    (h : m.blocks t.number = .attempt next :: rest) : Turned m t now m.host rest

variable {m : Machine ε} {t : Thread} {now : Instant} {n : Nat}

lemma goto_self (m : Machine ε) (n : Nat) :
    m.goto n (m.control n).code (m.control n).blocks m.host = m := by
  rw [goto, setAt_self rfl]

lemma turn_cases (m : Machine ε) (t : Thread) (now : Instant) :
    ∃ code h bs, m.turn t now = m.goto t.number code bs h ∧ m.Turned t now h bs := by
  simp only [turn]
  cases hcode : (m.control t.number).code with
  | scope s body next => exact ⟨_, _, _, rfl, .scope s next⟩
  | call service pipeline body next => exact ⟨_, _, _, rfl, .call service pipeline next⟩
  | attempt body next => exact ⟨_, _, _, rfl, .attempt next⟩
  | ask next => exact ⟨_, _, _, rfl, .idle⟩
  | done o =>
    cases hblocks : (m.control t.number).blocks with
    | nil => exact ⟨_, _, _, (m.goto_self t.number).symm, .idle⟩
    | cons b rest =>
      cases b with
      | scope s next => exact ⟨_, _, _, rfl, .endScope hblocks o⟩
      | call c next => exact ⟨_, _, _, rfl, .endCall hblocks o⟩
      | attempt next => exact ⟨_, _, _, rfl, .endAttempt hblocks⟩

lemma turn_scope {s : InvokeState} {body : Routine ε} {next : Outcome ε → Routine ε}
    (h : (m.control t.number).code = .scope s body next) :
    m.turn t now = m.goto t.number body (.scope s next :: m.blocks t.number)
      (m.host.bind t.number s) := by
  simp only [turn, h]
  rfl

lemma turn_call {service : ServiceDescriptor} {pipeline : Pipeline} {body : Routine ε}
    {next : Outcome ε → Routine ε}
    (h : (m.control t.number).code = .call service pipeline body next) :
    m.turn t now = m.goto t.number body
      (.call ⟨service, pipeline, now, m.host⟩ next :: m.blocks t.number)
      (m.host.enter t service pipeline now) := by
  simp only [turn, h]
  rfl

lemma turn_ask {next : Except Envelope InvokeState → Routine ε}
    (h : (m.control t.number).code = .ask next) :
    m.turn t now = m.goto t.number (next (m.host.ambient.current t.number)) (m.blocks t.number)
      m.host := by
  simp only [turn, h]
  rfl

lemma turn_endScope {o : Outcome ε} {s : InvokeState} {next : Outcome ε → Routine ε}
    {rest : List (Block ε)} (h : (m.control t.number).code = .done o)
    (hb : m.blocks t.number = .scope s next :: rest) :
    m.turn t now = m.goto t.number (.after o next) rest (m.host.endLevel t.number o.failed) := by
  rw [blocks] at hb
  simp only [turn, h, hb]

lemma turn_endCall {o : Outcome ε} {c : Running} {next : Outcome ε → Routine ε}
    {rest : List (Block ε)} (h : (m.control t.number).code = .done o)
    (hb : m.blocks t.number = .call c next :: rest) :
    m.turn t now = m.goto t.number (.after o next) rest (m.host.endLevel t.number o.failed) := by
  rw [blocks] at hb
  simp only [turn, h, hb]

lemma turn_ended {o : Outcome ε} (h : m.control t.number = ⟨.done o, []⟩) :
    m.turn t now = m := by
  simp only [turn, h]

@[simp] lemma control_goto {code : Routine ε} {bs : List (Block ε)} {h : Host} :
    (m.goto n code bs h).control n = ⟨code, bs⟩ := setAt_same _ _ _

@[simp] lemma host_goto {code : Routine ε} {bs : List (Block ε)} {h : Host} :
    (m.goto n code bs h).host = h := rfl

lemma blocks_goto {code : Routine ε} {bs : List (Block ε)} {h : Host} :
    (m.goto n code bs h).blocks = setAt m.blocks n bs :=
  comp_setAt Control.blocks m.control n ⟨code, bs⟩

/-- A thread stays where it is, enters a block, or ends one. -/
lemma Turned.blocks_cases {h : Host} {bs : List (Block ε)} (ht : m.Turned t now h bs) :
    bs = m.blocks t.number ∨ (∃ b, bs = b :: m.blocks t.number) ∨
      ∃ b, m.blocks t.number = b :: bs := by
  cases ht with
  | idle => exact Or.inl rfl
  | scope s next => exact Or.inr (Or.inl ⟨_, rfl⟩)
  | call service pipeline next => exact Or.inr (Or.inl ⟨_, rfl⟩)
  | attempt next => exact Or.inr (Or.inl ⟨_, rfl⟩)
  | endScope h o => exact Or.inr (Or.inr ⟨_, h⟩)
  | endCall h o => exact Or.inr (Or.inr ⟨_, h⟩)
  | endAttempt h => exact Or.inr (Or.inr ⟨_, h⟩)

/-- Other threads stay where they are. -/
lemma blocks_step_of_ne {mv : Move} (h : ∀ t now, mv = .turn t now → t.number ≠ n) :
    (m.step mv).blocks n = m.blocks n := by
  cases mv with
  | turn t now =>
    obtain ⟨code, host, bs, hturn, -⟩ := m.turn_cases t now
    rw [step, hturn, blocks_goto, setAt_of_ne _ _ (h t now rfl).symm]
  | _ => rfl

lemma blocks_step (m : Machine ε) (mv : Move) (n : Nat) :
    (m.step mv).blocks n = m.blocks n ∨ (∃ b, (m.step mv).blocks n = b :: m.blocks n) ∨
      ∃ b, m.blocks n = b :: (m.step mv).blocks n := by
  by_cases hmv : ∀ t now, mv = .turn t now → t.number ≠ n
  · exact Or.inl (blocks_step_of_ne hmv)
  · push Not at hmv
    obtain ⟨t, now, rfl, rfl⟩ := hmv
    obtain ⟨code, h, bs, hturn, hturned⟩ := m.turn_cases t now
    rw [step, hturn, blocks_goto, setAt_same]
    exact hturned.blocks_cases

/-! ### Runs -/

lemma run_append_singleton (m : Machine ε) (moves : List Move) (mv : Move) :
    m.run (moves ++ [mv]) = (m.run moves).step mv := by
  simp [run]

/-- During the moves the thread does not leave the blocks that it is in. -/
def Stays (m : Machine ε) (moves : List Move) (n : Nat) : Prop :=
  ∀ earlier, earlier <+: moves → (m.blocks n).length ≤ ((m.run earlier).blocks n).length

/-- The blocks that a thread does not leave remain around it as they are. -/
lemma Stays.suffix {moves : List Move} (h : m.Stays moves n) :
    m.blocks n <:+ (m.run moves).blocks n := by
  induction moves using List.reverseRecOn with
  | nil => exact List.suffix_refl _
  | append_singleton moves mv ih =>
    have hsuffix := ih fun earlier he => h earlier (he.trans (List.prefix_append _ _))
    have hlength := h _ (List.prefix_refl _)
    rw [run_append_singleton] at hlength ⊢
    obtain hsame | ⟨b, hpush⟩ | ⟨b, hpop⟩ := (m.run moves).blocks_step mv n
    · rw [hsame]
      exact hsuffix
    · rw [hpush]
      exact hsuffix.trans (List.suffix_cons _ _)
    · rw [hpop] at hsuffix
      rcases List.suffix_cons_iff.mp hsuffix with heq | hsuffix
      · rw [heq, List.length_cons] at hlength
        omega
      · exact hsuffix

end Machine

end CallWatch
