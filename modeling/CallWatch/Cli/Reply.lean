import CallWatch.Cli.Arguments
import CallWatch.Error.Codec
import CallWatch.Program
import CallWatch.Version

/-!
What the commands answer.

A command has a result, and a result has a text, as lines or as JSON, and an exit code, which
for a failure depends on its kind alone.
-/

namespace CallWatch.Cli

open CallWatch.Text

inductive ExitCode where
  | ok
  | internal
  | invalidInput
  | io
  deriving DecidableEq

def ExitCode.number : ExitCode → Nat
  | ok => 0
  | internal => 1
  | invalidInput => 2
  | io => 3

def ExitCode.ofKind : ErrorKind → ExitCode
  | .expected => invalidInput
  | .invariant | .unexpected => internal

inductive Result where
  | info
  | shown (path : Option String) (form : ConfigSyntax) (c : ValidConfig)
  | validated (path : Option String)
  | demonstrated (o : DemoOutcome)
  | failed (e : Envelope)

/-! ### Running -/

def loaded (r : Except Envelope ValidConfig) (f : ValidConfig → Result) : Result :=
  match r with
  | .ok c => f c
  | .error e => .failed e

/-- The workload as configured: logging comes first, unless nothing is to be told, then the
monitor, then the workers. -/
def runDemo (env : Environment) (quiet : Bool) (c : ValidConfig) (o : DemoOptions)
    (now later : Instant) (p : Program) : Except Envelope DemoOutcome × Program :=
  let t :=
    if quiet then (.ok (), p)
    else
      p.trace (filterDirectives c.config.level (env.text? LogFilter.variableName))
        c.config.format
  match t with
  | (.error e, p) => (.error e, p)
  | (.ok _, p) =>
    match p.install c now with
    | (.error e, p) => (.error e, p)
    | (.ok _, p) =>
      let r := p.demo o now later
      (r.1.mapError DemoError.envelope, r.2)

/-- A command that begins now; a workload shows its report later. -/
def Command.run (env : Environment) (files : Files) (now later : Instant) (mode : Mode) :
    Command → Result × Program
  | .info => (.info, .init)
  | .showConfig path overrides form =>
    (loaded (ValidConfig.load env files path overrides) (.shown path form), .init)
  | .validateConfig path overrides =>
    (loaded (ValidConfig.load env files path overrides) fun _ => .validated path, .init)
  | .demo path options =>
    match ValidConfig.load env files path none with
    | .error e => (.failed e, .init)
    | .ok c =>
      match runDemo env mode.quiet c options now later .init with
      | (.ok o, p) => (.demonstrated o, p)
      | (.error e, p) => (.failed e, p)

/-! ### Lines -/

def line (parts : List String) : String := String.join parts ++ "\n"

def threadText (s : Stamp) (n : Nat) : String :=
  match s.thread n with
  | .str t => t
  | v => v.compact

def frameLine (s : Stamp) (index : Nat) (f : FrameReport) : String :=
  line ["    [", Numeral.text index, "] ", f.service.text, " (", f.package.text, ") session=",
    f.session.text, " user=", f.user.text, " pipeline.length=", Numeral.text f.pipelineLength,
    " duration=", s.duration f.elapsed]

def frameLines (s : Stamp) : Nat → List FrameReport → List String
  | _, [] => []
  | n, f :: fs => frameLine s n f :: frameLines s (n + 1) fs

def invocationLines (s : Stamp) (i : InvocationReport) : List String :=
  line ["- thread ", i.threadName, " (#", threadText s i.threadId, ") since ",
    s.instant i.startedAt, " for ", s.duration i.elapsed] :: frameLines s 0 i.callstack

def reportLines (s : Stamp) (r : UsageReport) : List String :=
  [line ["monitoring.started: ", toString r.started]]
    ++ (r.startedAt.toList.map fun t => line ["monitoring.start: ", s.instant t])
    ++ (r.uptime.toList.map fun d => line ["monitoring.duration: ", s.duration d])
    ++ [line ["monitoring.datetime: ", s.instant r.generatedAt],
      line ["invocations: started=", Numeral.text r.invocations, " errored=",
        Numeral.text r.errors, " current=", Numeral.text r.currentLength]]
    ++ r.current.flatMap (invocationLines s)

def outcomeLines (s : Stamp) (o : DemoOutcome) : List String :=
  reportLines s o.report
    ++ [line ["summary: succeeded=", Numeral.text o.succeeded, " failed=", Numeral.text o.failed,
      " invocations.started=", Numeral.text o.invocations, " invocations.errored=",
      Numeral.text o.errors]]

def errorLines (e : Envelope) : List String :=
  [line ["status: error"], line ["code: ", e.code.text], line ["kind: ", e.kind.text],
    line ["message: ", e.message]]
    ++ e.details.entries.map fun d => line ["meta.", d.1, ": ", d.2]

def configText (form : ConfigSyntax) (c : Config) : String :=
  match form with
  | .json => c.jsonText
  | .toml => c.tomlText

/-- The name of the program. -/
def programName : String := "tundra"

def Result.lines (s : Stamp) : Result → List String
  | .info => [line ["status: ok"], line ["name: ", programName], line ["version: ", version],
    line ["facade: ", version]]
  | .shown _ form c => [line ["status: ok"], line ["config:"], configText form c.config]
  | .validated path =>
    [line ["status: ok"], line ["config: ok"]] ++ path.toList.map fun p => line ["path: ", p]
  | .demonstrated o => line ["status: ok"] :: outcomeLines s o
  | .failed e => errorLines e

/-! ### JSON -/

def pathJson : Option String → Json
  | some p => .str p
  | none => .null

def Result.toJson (s : Stamp) : Result → Json
  | .info => .obj [("status", .str "ok"), ("build", .obj [("name", .str programName),
    ("version", .str version), ("facadeVersion", .str version)])]
  | .shown path _ c => .obj [("status", .str "ok"), ("configPath", pathJson path),
    ("effectiveConfig", c.config.toJson)]
  | .validated path => .obj [("status", .str "ok"), ("configPath", pathJson path)]
  | .demonstrated o => .obj [("status", .str "ok"),
    ("summary", .obj [("succeeded", .nat o.succeeded), ("failed", .nat o.failed),
      ("invocationsStarted", .nat o.invocations), ("invocationsErrored", .nat o.errors)]),
    ("report", o.report.toJson s)]
  | .failed e => .obj [("status", .str "error"), ("error", e.toJson)]

/-! ### Replies -/

structure Reply where
  output : String
  /-- What is told apart from the output, line by line. -/
  notes : List String
  exit : ExitCode
  /-- Whether it counts if the output cannot be written. -/
  vital : Bool

def Result.note? : Result → Option String
  | .info => none
  | .shown _ _ _ => some "config show completed"
  | .validated _ => some "config validate completed"
  | .demonstrated _ => some "demo completed"
  | .failed _ => some "command failed"

def Result.exit : Result → ExitCode
  | .failed e => .ofKind e.kind
  | _ => .ok

def Result.reply (s : Stamp) (mode : Mode) (r : Result) : Reply where
  output := if mode.json then (r.toJson s).pretty ++ "\n" else String.join (r.lines s)
  notes := if mode.quiet then [] else (r.note?.map ("info: " ++ ·)).toList
  exit := r.exit
  vital := true

namespace Reply

def ofArgumentError (e : ArgumentError) : Reply :=
  ⟨"", ["error: " ++ e.message], .invalidInput, false⟩

def versionText : Reply := ⟨line [programName, " ", version], [], .ok, false⟩

def helpText : Reply where
  output := line ["usage: ", programName,
    " [--output text|json] [--no-progress] info | config show | config validate | demo"]
  notes := []
  exit := .ok
  vital := false

/-- What is left of a reply whose output cannot be written. -/
def unwritten (r : Reply) (cause : String) : Reply :=
  if r.vital then ⟨"", ["error: io error: " ++ cause], .io, true⟩ else { r with output := "" }

end Reply

end CallWatch.Cli
