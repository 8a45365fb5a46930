import CallWatch.Config.Load
import CallWatch.Demo

/-!
Command lines.

The arguments are read from left to right. An option belongs to the command that it follows;
how to answer can be said anywhere, and what is said last counts. The first argument that is
wrong is the error. A question for the version or for help ends the reading, but after the
word `help` only names of commands may follow.
-/

namespace CallWatch.Cli

open CallWatch.Text

/-- How to answer. -/
structure Mode where
  json : Bool
  /-- Nothing is told about the progress. -/
  quiet : Bool
  deriving DecidableEq

inductive Command where
  | info
  | showConfig (path overrides : Option String) (form : ConfigSyntax)
  | validateConfig (path overrides : Option String)
  | demo (path : Option String) (options : DemoOptions)

namespace Command

/-- The configuration file that a command asks for. -/
def path? : Command → Option String
  | info => none
  | showConfig path _ _ | validateConfig path _ | demo path _ => path

/-- How many milliseconds pass while a command runs. -/
def hold : Command → Nat
  | demo _ o => if o.outside?.isNone then o.holdMillis else 0
  | _ => 0

end Command

inductive Request where
  | version
  | help
  | command (mode : Mode) (c : Command)

inductive ArgumentError where
  | unexpected (argument : String)
  | missingValue (option : String)
  | unexpectedValue (option : String)
  | invalidValue (option value : String)
  | repeated (option : String)
  | noCommand
  deriving DecidableEq

def ArgumentError.message : ArgumentError → String
  | unexpected a => "unexpected argument " ++ a
  | missingValue o => "a value is required for " ++ o
  | unexpectedValue o => "no value is allowed for " ++ o
  | invalidValue o v => "invalid value for " ++ o ++ ": " ++ v
  | repeated o => "the argument " ++ o ++ " cannot be used multiple times"
  | noCommand => "a command is required"

/-- Where the reading stands among the commands. -/
inductive Level where
  | top
  | info
  | config
  | showConfig
  | validateConfig
  | demo
  /-- Help for help, which has no commands of its own. -/
  | help
  deriving DecidableEq

inductive Opt where
  | output
  | noProgress
  | config
  | overrides
  | format
  | threads
  | depth
  | hold
  | fail
  deriving DecidableEq

namespace Opt

def name : Opt → String
  | output => "--output"
  | noProgress => "--no-progress"
  | config => "--config"
  | overrides => "--overrides-json"
  | format => "--format"
  | threads => "--threads"
  | depth => "--depth"
  | hold => "--hold-ms"
  | fail => "--fail"

def takesValue : Opt → Bool
  | noProgress | fail => false
  | _ => true

/-- A number below 2^64. -/
def number? (s : String) : Option Nat := (Numeral.natural? s.toList).filter (· < UInt64.size)

/-- Whether an option takes a value. -/
def accepts (o : Opt) (v : String) : Bool :=
  match o with
  | output => v = "text" || v = "json"
  | format => v = "json" || v = "toml"
  | config => v ≠ ""
  | threads | depth | hold => (number? v).isSome
  | _ => true

end Opt

namespace Level

/-- The options that may follow. -/
def options : Level → List Opt
  | top | info | config => [.output, .noProgress]
  | showConfig => [.output, .noProgress, .config, .overrides, .format]
  | validateConfig => [.output, .noProgress, .config, .overrides]
  | demo => [.output, .noProgress, .config, .threads, .depth, .hold, .fail]
  | help => []

def command? : Level → String → Option Level
  | top, "info" => some info
  | top, "config" => some config
  | top, "demo" => some demo
  | config, "show" => some showConfig
  | config, "validate" => some validateConfig
  | _, _ => none

def hasCommands (l : Level) : Bool := l = top || l = config

end Level

structure Reading where
  level : Level
  /-- The options of this level with their values. -/
  here : List (Opt × String)
  /-- Those of the levels before, the latest first. -/
  before : List (Opt × String)
  /-- An option that waits for its value. -/
  waiting : Option Opt
  /-- No option or command can follow. -/
  closed : Bool
  /-- Help is asked for, perhaps for a command that follows. -/
  asking : Bool

/-- Why the reading ends early. -/
inductive Stop where
  | version
  | help
  | error (e : ArgumentError)

namespace Reading

def init : Reading := ⟨.top, [], [], none, false, false⟩

def fail {α : Type} (e : ArgumentError) : Except Stop α := .error (.error e)

def give (r : Reading) (o : Opt) (v : String) : Except Stop Reading :=
  if (r.here.lookup o).isSome then fail (.repeated o.name)
  else if o.accepts v then .ok { r with here := (o, v) :: r.here, waiting := none }
  else fail (.invalidValue o.name v)

/-- An argument that begins with two dashes; what follows an equals sign is a value. -/
def long (r : Reading) (arg : String) : Except Stop Reading :=
  let name := String.ofList (arg.toList.takeWhile (· ≠ '='))
  let value := match arg.toList.dropWhile (· ≠ '=') with
    | [] => none
    | _ :: v => some (String.ofList v)
  match r.level.options.find? fun o => o.name = name with
  | some o =>
    match o.takesValue, value with
    | true, some v => r.give o v
    | true, none => .ok { r with waiting := some o }
    | false, none => r.give o ""
    | false, some _ => fail (.unexpectedValue o.name)
  | none =>
    if arg = "--help" then .error .help
    else if arg = "--version" ∧ r.level = .top then .error .version
    else fail (.unexpected arg)

/-- An argument that begins with one dash. -/
def short (r : Reading) (arg : String) : Except Stop Reading :=
  match arg.toList with
  | _ :: 'h' :: _ => .error .help
  | _ :: 'V' :: _ => if r.level = .top then .error .version else fail (.unexpected arg)
  | _ => fail (.unexpected arg)

def word (r : Reading) (arg : String) : Except Stop Reading :=
  match r.level.command? arg with
  | some l => .ok { r with level := l, here := [], before := r.here ++ r.before }
  | none =>
    if arg = "help" ∧ r.level.hasCommands then
      .ok { r with asking := true, level := if r.asking then .help else r.level }
    else fail (.unexpected arg)

def isOption (arg : String) : Bool := arg.startsWith "-" && arg ≠ "-"

def step (r : Reading) (arg : String) : Except Stop Reading :=
  match r.waiting with
  | some o => if isOption arg then fail (.missingValue o.name) else r.give o arg
  | none =>
    if r.closed then fail (.unexpected arg)
    else if r.asking then r.word arg
    else if arg = "--" then .ok { r with closed := true }
    else if arg.startsWith "--" then r.long arg
    else if isOption arg then r.short arg
    else r.word arg

def get? (r : Reading) (o : Opt) : Option String := (r.here ++ r.before).lookup o

def numberOr (r : Reading) (o : Opt) (d : Nat) : Nat := ((r.get? o).bind Opt.number?).getD d

def mode (r : Reading) : Mode :=
  ⟨r.get? .output = some "json", (r.get? .noProgress).isSome⟩

def command? (r : Reading) : Option Command :=
  match r.level with
  | .top | .config | .help => none
  | .info => some .info
  | .showConfig =>
    some (.showConfig (r.get? .config) (r.get? .overrides)
      (if r.get? .format = some "toml" then .toml else .json))
  | .validateConfig => some (.validateConfig (r.get? .config) (r.get? .overrides))
  | .demo =>
    let d := DemoOptions.standard
    some (.demo (r.get? .config) {
      threads := r.numberOr .threads d.threads
      depth := r.numberOr .depth d.depth
      holdMillis := r.numberOr .hold d.holdMillis
      fail := (r.get? .fail).isSome })

def finish (r : Reading) : Except Stop Request :=
  if r.asking then .error .help
  else match r.waiting, r.command? with
    | some o, _ => fail (.missingValue o.name)
    | none, some c => .ok (.command r.mode c)
    | none, none => fail .noCommand

end Reading

/-- The request of a command line. -/
def Request.read (args : List String) : Except ArgumentError Request :=
  match args.foldlM Reading.step Reading.init >>= Reading.finish with
  | .ok r => .ok r
  | .error .version => .ok .version
  | .error .help => .ok .help
  | .error (.error e) => .error e

end CallWatch.Cli
