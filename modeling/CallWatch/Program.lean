import CallWatch.Ambient
import CallWatch.Config.Valid
import CallWatch.Demo
import CallWatch.Log.Filter

/-!
The monitor and the log of a program.

A program has one monitor. It is built when somebody first asks for it, with the standard
limits, or before that from a configuration; once there it stays, and a later configuration
is refused without any effect on it.
-/

namespace CallWatch

/-- What is done with the events that pass. -/
structure Tracing where
  filter : LogFilter
  format : LogFormat

/-- The monitor of a program, told apart by a number from all others that were built. -/
structure Installed where
  number : Nat
  watch : Watch

structure Program where
  /-- How many monitors have been built. -/
  built : Nat
  installed : Option Installed
  tracing : Option Tracing
  /-- The events that have passed, the latest first. -/
  logged : List LogEvent

namespace Program

def init : Program := ⟨0, none, none, []⟩

/-! ### Log -/

def log (e : LogEvent) (p : Program) : Program :=
  match p.tracing with
  | none => p
  | some t => if t.filter.passes e then { p with logged := e :: p.logged } else p

def logAll (es : List LogEvent) (p : Program) : Program := es.foldl (fun p e => p.log e) p

def invalidFilter (directives : String) (e : FilterError) : Envelope :=
  (Envelope.expected ⟨"logging", "invalid_filter"⟩ ("invalid log filter: " ++ e.message)).noting
    "directives" directives

def tracingInstalled : Envelope :=
  .expected ⟨"logging", "already_initialized"⟩
    "failed to install tracing subscriber: one is already installed"

/-- Starts logging by the directives; this can be done once. -/
def trace (directives : String) (format : LogFormat) (p : Program) :
    Except Envelope Unit × Program :=
  match LogFilter.read directives with
  | .error e => (.error (invalidFilter directives e), p)
  | .ok filter =>
    match p.tracing with
    | some _ => (.error tracingInstalled, p)
    | none => (.ok (), { p with tracing := some ⟨filter, format⟩ })

/-! ### Monitor -/

def standardWatch : Watch := .init (.html .standard)

/-- The monitor of the program, which is built now if it is not there. -/
def monitor (p : Program) : Installed × Program :=
  match p.installed with
  | some m => (m, p)
  | none =>
    let m : Installed := ⟨p.built, standardWatch⟩
    (m, { p with built := p.built + 1, installed := some m })

/-- Acts on the monitor of the program. -/
def act {α : Type} (f : Watch → α × Watch) (p : Program) : α × Program :=
  let m := p.monitor
  let r := f m.1.watch
  (r.1, { m.2 with installed := some { m.1 with watch := r.2 } })

def start (now : Instant) (p : Program) : Bool × Program :=
  let r := p.act fun w =>
    let r := w.start now
    ((r.1, r.2.monitor.epoch), r.2)
  (r.1.1, if r.1.1 then r.2.log (.monitorStarted r.1.2) else r.2)

def stop (p : Program) : Bool × Program :=
  let r := p.act fun w =>
    let r := w.stop
    ((r.1, r.2.monitor.epoch, w.monitor.tracked), r.2)
  (r.1.1, if r.1.1 then r.2.log (.monitorStopped r.1.2.1 r.1.2.2) else r.2)

def alreadyInstalled : Envelope :=
  .expected ⟨"config", "already_initialized"⟩ "the usage monitor is already initialized"

/-- Builds the monitor of the program from a configuration, unless it is there already. -/
def install (c : ValidConfig) (now : Instant) (p : Program) :
    Except Envelope Nat × Program :=
  let number := p.built
  let p := { p with built := p.built + 1 }
  match p.installed with
  | some _ => (.error alreadyInstalled, p)
  | none =>
    let p := { p with installed := some ⟨number, .init (.html c.renderOptions)⟩ }
    let p := if c.config.autoStart then (p.start now).2 else p
    (.ok number, p.log (.monitorInitialized c.config.autoStart))

/-- A call through the monitor on a thread without a bound state. -/
def unboundCall (t : Thread) (service : ServiceDescriptor) (failed : Bool) (now : Instant)
    (p : Program) : Program :=
  let r := p.act fun w =>
    let skipped := w.monitor.isStarted
    let w := w.enter t service .empty (.error Ambient.unbound) now
    (skipped, w.leave t.number failed)
  if r.1 then r.2.log (.registrationSkipped service.name.text Ambient.unbound) else r.2

/-- The workload on the monitor of the program. -/
def demo (o : DemoOptions) (now later : Instant) (p : Program) :
    Except DemoError DemoOutcome × Program :=
  match o.outside? with
  | some e => (.error e, p.monitor.2)
  | none =>
    let p := (p.start now).2
    let r := p.act (Demo.run o now later)
    (.ok r.1, r.2.logAll [
      .demoStarting o.threads o.depth o.fail,
      .demoInFlight o.threads o.threads,
      .demoFinished r.1.succeeded r.1.failed])

end Program

end CallWatch
