import CallWatch.Json.Printer
import CallWatch.Name.Service
import CallWatch.Pipeline
import CallWatch.Time.Duration

/-!
Usage reports: what a monitor says about the calls that are running.

A report lists the threads with running calls, each with its calls from the innermost to the
outermost. Its JSON form has dotted field names; a field that has no value is left out,
except the HTML of a pipeline, which is then null.
-/

namespace CallWatch

structure FrameReport where
  service : ServiceName
  package : PackageName
  pipeline : Pipeline
  pipelineLength : Nat
  html : Option String
  startedAt : Instant
  elapsed : Duration
  session : SessionId
  user : UserName

structure InvocationReport where
  threadId : Nat
  threadName : String
  startedAt : Instant
  elapsed : Duration
  callstack : List FrameReport
  callstackLength : Nat

structure UsageReport where
  started : Bool
  startedAt : Option Instant
  uptime : Option Duration
  generatedAt : Instant
  invocations : Nat
  errors : Nat
  current : List InvocationReport
  currentLength : Nat

/-- How a report writes what the clock and the numbering of threads decide. -/
structure Stamp where
  instant : Instant → String
  duration : Duration → String
  thread : Nat → Json

/-- Everything as it is. -/
def Stamp.plain : Stamp := ⟨Instant.text, Duration.text, Json.nat⟩

def FrameReport.toJson (s : Stamp) (f : FrameReport) : Json := .obj [
  ("service", .str f.service.text),
  ("package", .str f.package.text),
  ("pipeline", f.pipeline.toJson),
  ("pipeline.length", .nat f.pipelineLength),
  ("pipeline.html", match f.html with
    | some h => .str h
    | none => .null),
  ("start", .str (s.instant f.startedAt)),
  ("duration", .str (s.duration f.elapsed)),
  ("session", .str f.session.text),
  ("user", .str f.user.text)]

def InvocationReport.toJson (s : Stamp) (i : InvocationReport) : Json := .obj [
  ("thread.id", s.thread i.threadId),
  ("thread.name", .str i.threadName),
  ("thread.start", .str (s.instant i.startedAt)),
  ("thread.duration", .str (s.duration i.elapsed)),
  ("callstack", .arr (i.callstack.map (FrameReport.toJson s))),
  ("callstack.length", .nat i.callstackLength)]

/-- The services of the running calls, innermost first. -/
def InvocationReport.services (i : InvocationReport) : List String :=
  i.callstack.map fun f => f.service.text

namespace UsageReport

def toJson (s : Stamp) (r : UsageReport) : Json := .obj (
  [("monitoring.started?", .bool r.started)]
  ++ (r.startedAt.toList.map fun t => ("monitoring.start", .str (s.instant t)))
  ++ (r.uptime.toList.map fun d => ("monitoring.duration", .str (s.duration d)))
  ++ [("monitoring.datetime", .str (s.instant r.generatedAt)),
    ("invocations.started", .nat r.invocations),
    ("invocations.errored", .nat r.errors),
    ("invocations.current", .arr (r.current.map (InvocationReport.toJson s))),
    ("invocations.current.length", .nat r.currentLength)])

/-- The first listed invocation of a thread with that name. -/
def invocationNamed? (r : UsageReport) (name : String) : Option InvocationReport :=
  r.current.find? fun i => i.threadName = name

/-- Start times never decrease from one entry to the next. -/
def ascending : List InvocationReport → Bool
  | a :: b :: rest => a.startedAt.le b.startedAt && ascending (b :: rest)
  | _ => true

def stackConsistent (i : InvocationReport) : Bool :=
  i.callstackLength == i.callstack.length &&
    (match i.callstack.getLast? with
      | some f => f.startedAt = i.startedAt
      | none => false)

/-- The relations that hold inside every report of a monitor. -/
def consistent (r : UsageReport) : Bool :=
  ascending r.current && r.current.all stackConsistent
    && r.currentLength == r.current.length
    && r.started == r.startedAt.isSome && r.started == r.uptime.isSome

end UsageReport

/-! ### Snapshots -/

/-- The snapshot of a report is the report as it stands. -/
def FrameReport.snapshot (f : FrameReport) : FrameReport := f

def InvocationReport.snapshot (i : InvocationReport) : InvocationReport := i

def UsageReport.snapshot (r : UsageReport) : UsageReport := r

/-- What a snapshot can be taken of. None of these can be restored from one. -/
inductive SnapshotKind where
  | usageMonitor
  | invocation
  | frame
  | usageReport
  | invocationReport
  | frameReport
  deriving DecidableEq

def SnapshotKind.word : SnapshotKind → String
  | .usageMonitor => "usage_monitor"
  | .invocation => "invocation"
  | .frame => "frame"
  | .usageReport => "usage_report"
  | .invocationReport => "invocation_report"
  | .frameReport => "frame_report"

def SnapshotKind.restore (k : SnapshotKind) : Envelope := .unsupported (k.word ++ ".restore")

end CallWatch
