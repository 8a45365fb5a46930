import CallWatch.Call
import CallWatch.Monitor.Invocation

/-!
The usage monitor.

A monitor keeps a registry of the calls that run on every thread and counts the calls and
the failed calls. Every start and every stop that takes effect opens a new epoch, with an
empty registry and fresh counters; a call keeps the epoch in which it was registered, and
when it ends in a later one it leaves no trace.
-/

namespace CallWatch

/-! ### Registries -/

/-- The invocations of the tracked threads, one a thread, in the order of their creation. -/
abbrev Registry := List Invocation

namespace Registry

def tracks (r : Registry) (thread : Nat) : Bool := r.any (·.thread.number == thread)

/-- Adds a call to its thread's invocation, which is created if there is none. -/
def push (t : Thread) (f : Frame) : Registry → Registry
  | [] => [⟨t, [f]⟩]
  | i :: rest =>
    if i.thread.number = t.number then i.push f :: rest else i :: push t f rest

/-- Takes a call out of its thread's invocation, which goes when it is empty. -/
def pop (thread serial : Nat) : Registry → Registry
  | [] => []
  | i :: rest =>
    if i.thread.number = thread then
      let j := (i.pop serial).2
      if j.isEmpty then rest else j :: rest
    else i :: pop thread serial rest

end Registry

/-! ### Monitors -/

/-- Epochs and counters have no upper bound: that they begin again at 2^64 is left out. -/
structure Monitor where
  epoch : Nat
  /-- Milliseconds from 1970 to the start, at least one; none while stopped. -/
  startMillis : Option Int
  invocations : Nat
  errors : Nat
  registry : Registry
  /-- The serial number of the next frame. -/
  nextSerial : Nat
  kept : Renderings

/-- What a registered call holds until it ends. -/
structure Ticket where
  thread : Nat
  epoch : Nat
  serial : Nat
  deriving DecidableEq

namespace Monitor

def init : Monitor := ⟨0, none, 0, 0, [], 0, []⟩

def isStarted (m : Monitor) : Bool := m.startMillis.isSome

def startedAt (m : Monitor) : Option Instant := m.startMillis.bind Instant.ofMillis?

def tracked (m : Monitor) : Nat := m.registry.length

/-- A new epoch, with nothing registered and nothing counted. -/
def renewed (m : Monitor) : Monitor :=
  { m with epoch := m.epoch + 1, invocations := 0, errors := 0, registry := [] }

/-- Starts a stopped monitor; false, and nothing happens, if it is started. -/
def start (now : Instant) (m : Monitor) : Bool × Monitor :=
  if m.isStarted then (false, m)
  else (true, { m.renewed with startMillis := some (max now.millis 1) })

/-- Stops a started monitor; false, and nothing happens, if it is stopped. -/
def stop (m : Monitor) : Bool × Monitor :=
  if m.isStarted then (true, { m.renewed with startMillis := none }) else (false, m)

/-- Registers a call as it begins, if the monitor is started and the state of the call is
known. -/
def register (t : Thread) (now : Instant) (service : ServiceDescriptor) (pipeline : Pipeline)
    (state : Except Envelope InvokeState) (m : Monitor) : Option Ticket × Monitor :=
  if m.isStarted then
    match state with
    | .error _ => (none, m)
    | .ok state =>
      let f : Frame := ⟨m.nextSerial, service, pipeline, state, now⟩
      (some ⟨t.number, m.epoch, f.serial⟩, { m with
        registry := m.registry.push t f
        invocations := m.invocations + 1
        nextSerial := m.nextSerial + 1 })
  else (none, m)

/-- Ends a call: of the current epoch, it leaves the registry, and counts if it failed. -/
def complete (ticket : Option Ticket) (failed : Bool) (m : Monitor) : Monitor :=
  match ticket with
  | none => m
  | some k =>
    if k.epoch = m.epoch then
      { m with
        registry := m.registry.pop k.thread k.serial
        errors := if failed then m.errors + 1 else m.errors }
    else m

/-- The report at one instant, the threads whose outermost calls began first at the front.
Entries without a call are dropped. -/
def report (r : Renderer) (now : Instant) (m : Monitor) : UsageReport × Monitor :=
  let is := Invocation.reports r now m.registry m.kept
  let current := is.1.mergeSort fun a b => a.startedAt.le b.startedAt
  ({ started := m.startedAt.isSome
     startedAt := m.startedAt
     uptime := m.startedAt.map fun s => .between s now
     generatedAt := now
     invocations := m.invocations
     errors := m.errors
     current := current
     currentLength := current.length },
    { m with registry := m.registry.filter fun i => !i.isEmpty, kept := is.2 })

def debugText (showInstant : Instant → String) (m : Monitor) : String :=
  "UsageMonitor \x7b started_at: " ++ (match m.startedAt with
      | some t => "Some(" ++ showInstant t ++ ")"
      | none => "None")
    ++ ", epoch: " ++ Text.Numeral.text m.epoch
    ++ ", total_invocations: " ++ Text.Numeral.text m.invocations
    ++ ", total_errors: " ++ Text.Numeral.text m.errors
    ++ ", tracked_threads: " ++ Text.Numeral.text m.tracked ++ ", .. \x7d"

end Monitor

/-! ### In a chain -/

/-- Where a monitor finds itself, the thread, the clock and the state of a call in the world
around it. -/
structure Monitor.Site (ω : Type) where
  monitor : ω → Monitor
  update : Monitor → ω → ω
  thread : ω → Thread
  now : ω → Instant
  state : ω → Except Envelope InvokeState

/-- The monitor as a processor: it registers every call on the way in, lets it go on, and
completes it on the way out, whatever the outcome. -/
def Monitor.processor {ω ε : Type} (s : Monitor.Site ω) : Processor ω ε := fun service _ c =>
  let r := (s.monitor c.world).register (s.thread c.world) (s.now c.world) service c.pipeline
    (s.state c.world)
  (.proceed fun o c =>
      (o, { c with
        world := s.update ((s.monitor c.world).complete r.1 o.failed) c.world }),
    { c with world := s.update r.2 c.world })

end CallWatch
