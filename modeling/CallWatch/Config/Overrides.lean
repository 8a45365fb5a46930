import CallWatch.Config.Basic
import CallWatch.Document

/-!
Overrides: the parts of a configuration that replace those of another one.

Overrides have the parts of a configuration, and each may be left open. A field is left open where
it is missing or null, and a section where it is missing.
-/

namespace CallWatch

structure MonitorOverrides where
  autoStart : Option Bool
  deriving DecidableEq

structure RenderOverrides where
  maxValueChars : Option UInt32
  maxArrayItems : Option UInt32
  maxDepth : Option UInt32
  deriving DecidableEq

structure LoggingOverrides where
  level : Option String
  format : Option LogFormat
  deriving DecidableEq

structure ConfigOverrides where
  version : Option UInt32
  monitor : MonitorOverrides
  render : RenderOverrides
  logging : LoggingOverrides
  deriving DecidableEq

/-! ### Documents -/

namespace MonitorOverrides

def empty : MonitorOverrides := ⟨none⟩

def shape : Document.Shape := ⟨["autoStart"], true⟩

def ofFields? (fields : Record Document) : Option MonitorOverrides := do
  let autoStart ←
    Document.optional? (Document.nullable? Document.bool?) empty.autoStart fields "autoStart"
  pure ⟨autoStart⟩

def ofDocument? (d : Dialect) (v : Document) : Option MonitorOverrides :=
  (v.fields? d shape).bind ofFields?

end MonitorOverrides

namespace RenderOverrides

def empty : RenderOverrides := ⟨none, none, none⟩

def shape : Document.Shape := ⟨["maxValueChars", "maxArrayItems", "maxDepth"], true⟩

def ofFields? (fields : Record Document) : Option RenderOverrides := do
  let word? := Document.nullable? Document.word?
  let chars ← Document.optional? word? empty.maxValueChars fields "maxValueChars"
  let items ← Document.optional? word? empty.maxArrayItems fields "maxArrayItems"
  let depth ← Document.optional? word? empty.maxDepth fields "maxDepth"
  pure ⟨chars, items, depth⟩

def ofDocument? (d : Dialect) (v : Document) : Option RenderOverrides :=
  (v.fields? d shape).bind ofFields?

end RenderOverrides

namespace LoggingOverrides

def empty : LoggingOverrides := ⟨none, none⟩

def shape : Document.Shape := ⟨["level", "format"], true⟩

def ofFields? (d : Dialect) (fields : Record Document) : Option LoggingOverrides := do
  let level ← Document.optional? (Document.nullable? Document.text?) empty.level fields "level"
  let format ←
    Document.optional? (Document.nullable? (Document.variant? d LogFormat.named?)) empty.format
      fields "format"
  pure ⟨level, format⟩

def ofDocument? (d : Dialect) (v : Document) : Option LoggingOverrides :=
  (v.fields? d shape).bind (ofFields? d)

end LoggingOverrides

namespace ConfigOverrides

/-- Overrides that leave everything open. -/
def empty : ConfigOverrides := ⟨none, .empty, .empty, .empty⟩

def shape : Document.Shape := ⟨["version", "monitor", "render", "logging"], true⟩

/-- The overrides in a document. -/
def ofDocument? (d : Dialect) (v : Document) : Option ConfigOverrides := do
  let fields ← v.fields? d shape
  let version ←
    Document.optional? (Document.nullable? Document.word?) empty.version fields "version"
  let monitor ←
    Document.optional? (MonitorOverrides.ofDocument? d) empty.monitor fields "monitor"
  let render ← Document.optional? (RenderOverrides.ofDocument? d) empty.render fields "render"
  let logging ←
    Document.optional? (LoggingOverrides.ofDocument? d) empty.logging fields "logging"
  pure ⟨version, monitor, render, logging⟩

/-! ### Application -/

/-- A configuration with the fields that overrides do not leave open. -/
def apply (o : ConfigOverrides) (c : Config) : Config where
  version := o.version.getD c.version
  autoStart := o.monitor.autoStart.getD c.autoStart
  maxValueChars := o.render.maxValueChars.getD c.maxValueChars
  maxArrayItems := o.render.maxArrayItems.getD c.maxArrayItems
  maxDepth := o.render.maxDepth.getD c.maxDepth
  level := o.logging.level.getD c.level
  format := o.logging.format.getD c.format

end ConfigOverrides

end CallWatch
