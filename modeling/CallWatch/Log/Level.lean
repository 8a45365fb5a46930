/-!
Levels of log events, from the most to the least urgent.
-/

namespace CallWatch

inductive LogLevel where
  | error
  | warn
  | info
  | debug
  | trace
  deriving DecidableEq

namespace LogLevel

def text : LogLevel → String
  | error => "error"
  | warn => "warn"
  | info => "info"
  | debug => "debug"
  | trace => "trace"

def upper : LogLevel → String
  | error => "ERROR"
  | warn => "WARN"
  | info => "INFO"
  | debug => "DEBUG"
  | trace => "TRACE"

/-- How much is let through when this level is. -/
def rank : LogLevel → Nat
  | error => 1
  | warn => 2
  | info => 3
  | debug => 4
  | trace => 5

/-- All levels, the least urgent first. -/
def all : List LogLevel := [trace, debug, info, warn, error]

def named? (s : String) : Option LogLevel := all.find? fun l => l.text == s

end LogLevel

end CallWatch
