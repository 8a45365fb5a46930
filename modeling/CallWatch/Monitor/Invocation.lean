import CallWatch.Monitor.Frame

/-!
Invocations: the running calls of one thread, innermost first.
-/

namespace CallWatch

/-- A thread, told apart from others by its number. -/
structure Thread where
  number : Nat
  name : String
  deriving DecidableEq

def Thread.text (t : Thread) : String := t.name ++ "#" ++ Text.Numeral.text t.number

/-- A thread without a name of its own is named by its number. -/
def Thread.ofNumber (number : Nat) (name : Option String) : Thread :=
  ⟨number, name.getD ("thread-" ++ Text.Numeral.text number)⟩

structure Invocation where
  thread : Thread
  frames : List Frame

namespace Invocation

def size (i : Invocation) : Nat := i.frames.length

def isEmpty (i : Invocation) : Bool := i.frames.isEmpty

def push (f : Frame) (i : Invocation) : Invocation := { i with frames := f :: i.frames }

/-- Takes out the innermost occurrence of a frame; true if there was one. -/
def pop (serial : Nat) (i : Invocation) : Bool × Invocation :=
  (i.frames.any (·.serial == serial),
    { i with frames := i.frames.eraseP (·.serial == serial) })

/-- The start of the outermost call. -/
def startedAt (i : Invocation) : Option Instant := i.frames.getLast?.map Frame.startedAt

/-- The report of an invocation with at least one call. -/
def report (r : Renderer) (now : Instant) (i : Invocation) (kept : Renderings) :
    Option InvocationReport × Renderings :=
  match i.startedAt with
  | none => (none, kept)
  | some start =>
    let fs := Frame.reports r now i.frames kept
    (some {
      threadId := i.thread.number
      threadName := i.thread.name
      startedAt := start
      elapsed := .between start now
      callstack := fs.1
      callstackLength := fs.1.length }, fs.2)

/-- The reports of all invocations with at least one call. -/
def reports (r : Renderer) (now : Instant) :
    List Invocation → Renderings → List InvocationReport × Renderings
  | [], kept => ([], kept)
  | i :: is, kept =>
    let h := i.report r now kept
    let rest := reports r now is h.2
    (h.1.toList ++ rest.1, rest.2)

end Invocation

end CallWatch
