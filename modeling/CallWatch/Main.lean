import CallWatch.Cli.Reply
import Std.Time.DateTime.Timestamp

/-!
The command line program: it gathers what the command asks for, and writes its reply.
-/

namespace CallWatch.Cli

/-- The variables that are asked for. -/
def variableNames : List String :=
  LogFilter.variableName :: Variable.all.map Variable.name

def currentEnvironment : IO Environment := do
  let values ← variableNames.filterMapM fun n => do
    return (← IO.getEnv n).map fun v => (n, v.toUTF8)
  return fun n => values.lookup n

def readError : IO.Error → ReadError
  | .noFileOrDirectory _ _ _ => .notFound
  | .permissionDenied _ _ _ => .permissionDenied
  | .inappropriateType _ 20 _ => .notDirectory
  | .inappropriateType _ _ _ => .isDirectory
  | e => .other (toString e)

/-- What reading the file of a command gives. -/
def readFiles : Option String → IO Files
  | none => return fun _ => .error .notFound
  | some path => do
    try
      let bytes ← IO.FS.readBinFile path
      return fun _ => .ok bytes
    catch e => return fun _ => .error (readError e)

def currentInstant : IO Instant := do
  let now ← Std.Time.Timestamp.now
  let nanos := now.toNanosecondsSinceUnixEpoch.toInt
  return (Instant.ofUnix? (nanos / 1_000_000_000) (nanos % 1_000_000_000).toNat).getD .epoch

def writeNotes (notes : List String) : IO Unit := notes.forM fun n => IO.eprintln n

/-- Writes a reply, or what is left of it if its output is refused. -/
def write (r : Reply) : IO UInt32 := do
  let written ← try
      let out ← IO.getStdout
      out.putStr r.output
      out.flush
      pure r
    catch e => pure (r.unwritten (toString e))
  writeNotes written.notes
  return .ofNat written.exit.number

def logLines (p : Program) : List String :=
  match p.tracing with
  | none => []
  | some t => p.logged.reverse.map fun e => match t.format with
    | .json => e.toJson.compact
    | .text => e.text

def answer (mode : Mode) (c : Command) : IO UInt32 := do
  let env ← currentEnvironment
  let files ← readFiles c.path?
  let now ← currentInstant
  IO.sleep (.ofNat c.hold)
  let later ← currentInstant
  let r := c.run env files now later mode
  writeNotes (logLines r.2)
  write (r.1.reply .plain mode)

end CallWatch.Cli

open CallWatch.Cli in
def main (args : List String) : IO UInt32 :=
  match Request.read args with
  | .error e => write (.ofArgumentError e)
  | .ok .version => write .versionText
  | .ok .help => write .helpText
  | .ok (.command mode c) => answer mode c
