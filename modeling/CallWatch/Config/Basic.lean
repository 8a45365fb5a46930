import CallWatch.Json.Printer
import CallWatch.Log.Level
import CallWatch.Text.Blank
import CallWatch.Toml.Printer

/-!
Configurations as written, valid or not, and their JSON and TOML texts.
-/

namespace CallWatch

open CallWatch.Text

inductive LogFormat where
  | text
  | json
  deriving DecidableEq

namespace LogFormat

def word : LogFormat → String
  | text => "text"
  | json => "json"

def named? : String → Option LogFormat
  | "text" => some text
  | "json" => some json
  | _ => none

/-- The format that a text names, blanks around it and the case of its letters aside. -/
def parse? (s : String) : Option LogFormat := named? (lower (trim s))

end LogFormat

/-- When the monitor starts. -/
structure MonitorSection where
  autoStart : Bool
  deriving DecidableEq

/-- The limits of a rendering. -/
structure RenderSection where
  maxValueChars : UInt32
  maxArrayItems : UInt32
  maxDepth : UInt32
  deriving DecidableEq

/-- What is logged, and how it is written. -/
structure LoggingSection where
  level : String
  format : LogFormat
  deriving DecidableEq

structure Config extends MonitorSection, RenderSection, LoggingSection where
  version : UInt32
  deriving DecidableEq

/-! ### Standard values -/

def MonitorSection.standard : MonitorSection where
  autoStart := false

def RenderSection.standard : RenderSection where
  maxValueChars := 255
  maxArrayItems := 10
  maxDepth := 5

def LoggingSection.standard : LoggingSection where
  level := "info"
  format := .text

namespace Config

/-- The version that is understood. -/
def currentVersion : UInt32 := 1

/-- What holds where nothing is said. -/
def standard : Config where
  toMonitorSection := .standard
  toRenderSection := .standard
  toLoggingSection := .standard
  version := currentVersion

/-! ### Texts -/

def toJson (c : Config) : Json := .obj [
  ("version", .nat c.version.toNat),
  ("monitor", .obj [("autoStart", .bool c.autoStart)]),
  ("render", .obj [
    ("maxValueChars", .nat c.maxValueChars.toNat),
    ("maxArrayItems", .nat c.maxArrayItems.toNat),
    ("maxDepth", .nat c.maxDepth.toNat)]),
  ("logging", .obj [("level", .str c.level), ("format", .str c.format.word)])]

def jsonText (c : Config) : String := c.toJson.pretty ++ "\n"

def tomlChars (c : Config) : List Char :=
  Toml.entryChars "version" (.number c.version.toNat)
    ++ Toml.sectionChars "monitor" [("autoStart", .bool c.autoStart)]
    ++ Toml.sectionChars "render" [
      ("maxValueChars", .number c.maxValueChars.toNat),
      ("maxArrayItems", .number c.maxArrayItems.toNat),
      ("maxDepth", .number c.maxDepth.toNat)]
    ++ Toml.sectionChars "logging" [("level", .text c.level), ("format", .text c.format.word)]

def tomlText (c : Config) : String := String.ofList c.tomlChars

end Config

end CallWatch
