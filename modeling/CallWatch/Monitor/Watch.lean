import CallWatch.Monitor.Basic

/-!
A monitor among the threads that call through it.

Calls nest on every thread; each holds the ticket that it got from the monitor, or none, and
a thread leaves its innermost call first. A run is a fold of `step` over events of any
threads in any order.
-/

namespace CallWatch

/-- The function `f` with the value `v` at `k`. -/
def setAt {α : Type} (f : Nat → α) (k : Nat) (v : α) : Nat → α := fun i => if i = k then v else f i

@[simp] theorem setAt_same {α : Type} (f : Nat → α) (k : Nat) (v : α) : setAt f k v k = v :=
  if_pos rfl

theorem setAt_of_ne {α : Type} (f : Nat → α) {k i : Nat} (v : α) (h : i ≠ k) :
    setAt f k v i = f i := if_neg h

@[simp] theorem setAt_setAt {α : Type} (f : Nat → α) (k : Nat) (v w : α) :
    setAt (setAt f k v) k w = setAt f k w := by
  funext i
  by_cases hi : i = k <;> simp [setAt, hi]

theorem setAt_self {α : Type} {f : Nat → α} {k : Nat} {v : α} (h : f k = v) : setAt f k v = f := by
  funext i
  by_cases hi : i = k <;> simp [setAt, hi, h]

theorem comp_setAt {α β : Type} (g : α → β) (f : Nat → α) (k : Nat) (v : α) :
    (fun i => g (setAt f k v i)) = setAt (fun i => g (f i)) k (g v) := by
  funext i
  by_cases hi : i = k <;> simp [setAt, hi]

structure Watch where
  monitor : Monitor
  renderer : Renderer
  /-- The tickets of the unfinished calls of every thread, innermost first. -/
  unfinished : Nat → List (Option Ticket)

inductive Event where
  | enter (t : Thread) (service : ServiceDescriptor) (pipeline : Pipeline)
      (state : Except Envelope InvokeState) (now : Instant)
  /-- The innermost call of a thread ends; it failed if it returned an error or a panic unwinds
  it. -/
  | leave (thread : Nat) (failed : Bool)
  | start (now : Instant)
  | stop
  | report (now : Instant)

/-- What an event tells whoever caused it. -/
inductive Answer where
  | done
  | changed (b : Bool)
  | reported (r : UsageReport)

namespace Watch

def init (r : Renderer) : Watch := ⟨.init, r, fun _ => []⟩

def enter (t : Thread) (service : ServiceDescriptor) (pipeline : Pipeline)
    (state : Except Envelope InvokeState) (now : Instant) (w : Watch) : Watch :=
  let r := w.monitor.register t now service pipeline state
  { w with
    monitor := r.2
    unfinished := setAt w.unfinished t.number (r.1 :: w.unfinished t.number) }

/-- The innermost call of a thread ends. -/
def leave (thread : Nat) (failed : Bool) (w : Watch) : Watch :=
  match w.unfinished thread with
  | [] => w
  | k :: ks =>
    { w with
      monitor := w.monitor.complete k failed
      unfinished := setAt w.unfinished thread ks }

def start (now : Instant) (w : Watch) : Bool × Watch :=
  let r := w.monitor.start now
  (r.1, { w with monitor := r.2 })

def stop (w : Watch) : Bool × Watch :=
  let r := w.monitor.stop
  (r.1, { w with monitor := r.2 })

def report (now : Instant) (w : Watch) : UsageReport × Watch :=
  let r := w.monitor.report w.renderer now
  (r.1, { w with monitor := r.2 })

def react (w : Watch) : Event → Answer × Watch
  | .enter t service pipeline state now => (.done, w.enter t service pipeline state now)
  | .leave thread failed => (.done, w.leave thread failed)
  | .start now => let r := w.start now; (.changed r.1, r.2)
  | .stop => let r := w.stop; (.changed r.1, r.2)
  | .report now => let r := w.report now; (.reported r.1, r.2)

def step (w : Watch) (e : Event) : Watch := (w.react e).2

def run (w : Watch) (es : List Event) : Watch := es.foldl step w

@[simp] theorem run_nil (w : Watch) : run w [] = w := rfl

@[simp] theorem run_cons (w : Watch) (e : Event) (es : List Event) :
    run w (e :: es) = run (step w e) es := rfl

theorem run_append (w : Watch) (es fs : List Event) : run w (es ++ fs) = run (run w es) fs := by
  simp [run]

end Watch

end CallWatch
