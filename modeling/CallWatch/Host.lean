import CallWatch.Ambient
import CallWatch.Chain.Basic

/-!
A host: threads that open scopes and make calls, and the monitors that watch them.

The monitors stand in one chain. A call goes through the monitors that are installed when it
begins, and through the same ones in reverse order when it ends; whatever ends a level of a
thread ends it for all of them.
-/

namespace CallWatch

/-- A monitor of the host; with a fixed state it does not ask the thread for one. -/
structure Member where
  watch : Watch
  fixed : Option InvokeState

/-- What a thread can be inside of: a scope, with the state to put back, or a call, with its
pipeline and the monitors that it went through, outermost first. -/
inductive Level where
  | scope (previous : Option InvokeState)
  | call (pipeline : Pipeline) (through : List Nat)

structure Host where
  members : List Member
  chain : Chain Nat
  ambient : Ambient
  levels : Nat → List Level

namespace Host

/-- A host with its monitors installed in order. -/
def init (members : List Member) : Host where
  members := members
  chain := ⟨List.range members.length, List.nodup_range⟩
  ambient := .init
  levels := fun _ => []

def setWatch (h : Host) (i : Nat) (f : Watch → Watch) : Host :=
  { h with members := h.members.modify i fun m => { m with watch := f m.watch } }

def startMonitor (h : Host) (i : Nat) (now : Instant) : Bool × Host :=
  match h.members[i]? with
  | some m => ((m.watch.start now).1, h.setWatch i fun w => (w.start now).2)
  | none => (false, h)

def stopMonitor (h : Host) (i : Nat) : Bool × Host :=
  match h.members[i]? with
  | some m => (m.watch.stop.1, h.setWatch i fun w => w.stop.2)
  | none => (false, h)

def report? (h : Host) (i : Nat) (now : Instant) : Option (UsageReport × Host) :=
  h.members[i]?.map fun m => ((m.watch.report now).1, h.setWatch i fun w => (w.report now).2)

def install (h : Host) (i : Nat) : Bool × Host :=
  let r := h.chain.register i
  (r.1, { h with chain := r.2 })

def uninstall (h : Host) (i : Nat) : Bool × Host :=
  let r := h.chain.unregister i
  (r.1, { h with chain := r.2 })

def push (h : Host) (thread : Nat) (l : Level) : Host :=
  { h with levels := setAt h.levels thread (l :: h.levels thread) }

/-- A thread enters a scope. -/
def bind (h : Host) (thread : Nat) (s : InvokeState) : Host :=
  let r := h.ambient.bind thread s
  { h with ambient := r.2 }.push thread (.scope r.1)

/-- The state that a member sees on a thread. -/
def stateFor (h : Host) (m : Member) (thread : Nat) : Except Envelope InvokeState :=
  match m.fixed with
  | some s => .ok s
  | none => h.ambient.current thread

def enterOne (t : Thread) (service : ServiceDescriptor) (pipeline : Pipeline) (now : Instant)
    (h : Host) (i : Nat) : Host :=
  { h with members := h.members.modify i fun m =>
      { m with watch := m.watch.enter t service pipeline (h.stateFor m t.number) now } }

/-- A thread makes a call, which goes on until it is ended. -/
def enter (h : Host) (t : Thread) (service : ServiceDescriptor) (pipeline : Pipeline)
    (now : Instant) : Host :=
  let through := h.chain.installed
  (through.foldl (enterOne t service pipeline now) h).push t.number (.call pipeline through)

/-- The service of the innermost level writes into its pipeline, if that level is a call. -/
def edit (h : Host) (thread : Nat) (k : String) (v : Json) : Option Pipeline × Host :=
  match h.levels thread with
  | .call p through :: rest =>
    let p := p.insert k v
    (some p, { h with levels := setAt h.levels thread (.call p through :: rest) })
  | _ => (none, h)

def leaveOne (thread : Nat) (failed : Bool) (h : Host) (i : Nat) : Host :=
  h.setWatch i (Watch.leave thread failed)

/-- The innermost level of a thread ends. -/
def endLevel (h : Host) (thread : Nat) (failed : Bool) : Host :=
  match h.levels thread with
  | [] => h
  | l :: rest =>
    let h := { h with levels := setAt h.levels thread rest }
    match l with
    | .scope previous => { h with ambient := h.ambient.restore thread previous }
    | .call _ through => through.reverse.foldl (leaveOne thread failed) h

/-- The `n` innermost levels of a thread end in the same way, one after the other; the
outcomes that are observed, none where the thread is in no level. -/
def finish {ε : Type} (h : Host) (thread : Nat) (o : Outcome ε) (n : Nat) :
    Option (List (Outcome ε)) × Host :=
  match h.levels thread with
  | [] => (none, h)
  | ls =>
    let n := min n ls.length
    (some (List.replicate n o),
      (List.range n).foldl (fun h _ => h.endLevel thread o.failed) h)

end Host

end CallWatch
