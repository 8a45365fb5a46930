import CallWatch.Error
import CallWatch.Json.Printer
import CallWatch.Log.Level

/-!
The events that are logged.
-/

namespace CallWatch

inductive LogEvent where
  | monitorStarted (epoch : Nat)
  | monitorStopped (epoch dropped : Nat)
  | monitorInitialized (autoStart : Bool)
  | registrationSkipped (service : String) (cause : Envelope)
  | demoStarting (threads depth : Nat) (fail : Bool)
  | demoInFlight (ready spawned : Nat)
  | demoFinished (succeeded failed : Nat)

namespace LogEvent

def level : LogEvent → LogLevel
  | registrationSkipped _ _ | demoInFlight _ _ => .debug
  | _ => .info

/-- The part of the program that an event comes from. -/
def target : LogEvent → String
  | monitorStarted _ | monitorStopped _ _ | registrationSkipped _ _ => "tundra_monitor::monitor"
  | monitorInitialized _ => "tundra_facade::global"
  | demoStarting _ _ _ | demoInFlight _ _ | demoFinished _ _ => "tundra_facade::demo"

def message : LogEvent → String
  | monitorStarted _ => "usage monitor started"
  | monitorStopped _ _ => "usage monitor stopped"
  | monitorInitialized _ => "usage monitor initialized"
  | registrationSkipped _ _ => "usage registration skipped"
  | demoStarting _ _ _ => "demo workload starting"
  | demoInFlight _ _ => "demo workers in flight"
  | demoFinished _ _ => "demo workload finished"

def fields : LogEvent → List (String × Json)
  | monitorStarted epoch => [("epoch", .nat epoch)]
  | monitorStopped epoch dropped => [("epoch", .nat epoch), ("dropped_invocations", .nat dropped)]
  | monitorInitialized autoStart => [("auto_start", .bool autoStart)]
  | registrationSkipped service cause =>
    [("service", .str service), ("error", .str cause.text)]
  | demoStarting threads depth fail =>
    [("threads", .nat threads), ("depth", .nat depth), ("fail", .bool fail)]
  | demoInFlight ready spawned => [("ready", .nat ready), ("spawned", .nat spawned)]
  | demoFinished succeeded failed => [("succeeded", .nat succeeded), ("failed", .nat failed)]

/-- The names of all that an event carries. -/
def fieldNames (e : LogEvent) : List String := "message" :: e.fields.map Prod.fst

def toJson (e : LogEvent) : Json := .obj (
  [("level", .str e.level.upper), ("message", .str e.message)] ++ e.fields
    ++ [("target", .str e.target)])

/-- A line for people. -/
def text (e : LogEvent) : String :=
  e.level.upper ++ " " ++ e.target ++ ": " ++ e.message
    ++ String.join (e.fields.map fun f => " " ++ f.1 ++ "=" ++ f.2.compact)

end LogEvent

end CallWatch
