import CallWatch.Monitor.Watch

/-!
The state that is bound on a thread.

A scope binds a state on its thread and puts back what was bound before when it ends, however
it ends.
-/

namespace CallWatch

/-- What is bound on every thread. -/
structure Ambient where
  bound : Nat → Option InvokeState

namespace Ambient

def init : Ambient := ⟨fun _ => none⟩

/-- No state is bound where one is asked for. -/
def unbound : Envelope :=
  .expected ⟨"invoke_state", "unbound"⟩ "no invoke state is bound to the current thread"

def current (a : Ambient) (thread : Nat) : Except Envelope InvokeState :=
  match a.bound thread with
  | some s => .ok s
  | none => .error unbound

/-- Binds a state; what was bound before is to be put back. -/
def bind (a : Ambient) (thread : Nat) (s : InvokeState) : Option InvokeState × Ambient :=
  (a.bound thread, ⟨setAt a.bound thread (some s)⟩)

def restore (a : Ambient) (thread : Nat) (previous : Option InvokeState) : Ambient :=
  ⟨setAt a.bound thread previous⟩

end Ambient

end CallWatch
