import CallWatch.Config.Basic
import CallWatch.Document

/-!
Configurations in documents.

Every part may be missing: a section, or a field of one. What is missing has its standard value.
Null is no value, and a name that is not known is refused.
-/

namespace CallWatch

namespace MonitorSection

def shape : Document.Shape := ⟨["autoStart"], true⟩

def ofFields? (fields : Record Document) : Option MonitorSection := do
  let autoStart ← Document.optional? Document.bool? standard.autoStart fields "autoStart"
  pure ⟨autoStart⟩

def ofDocument? (d : Dialect) (v : Document) : Option MonitorSection :=
  (v.fields? d shape).bind ofFields?

end MonitorSection

namespace RenderSection

def shape : Document.Shape := ⟨["maxValueChars", "maxArrayItems", "maxDepth"], true⟩

def ofFields? (fields : Record Document) : Option RenderSection := do
  let chars ← Document.optional? Document.word? standard.maxValueChars fields "maxValueChars"
  let items ← Document.optional? Document.word? standard.maxArrayItems fields "maxArrayItems"
  let depth ← Document.optional? Document.word? standard.maxDepth fields "maxDepth"
  pure ⟨chars, items, depth⟩

def ofDocument? (d : Dialect) (v : Document) : Option RenderSection :=
  (v.fields? d shape).bind ofFields?

end RenderSection

namespace LoggingSection

def shape : Document.Shape := ⟨["level", "format"], true⟩

def ofFields? (d : Dialect) (fields : Record Document) : Option LoggingSection := do
  let level ← Document.optional? Document.text? standard.level fields "level"
  let format ←
    Document.optional? (Document.variant? d LogFormat.named?) standard.format fields "format"
  pure ⟨level, format⟩

def ofDocument? (d : Dialect) (v : Document) : Option LoggingSection :=
  (v.fields? d shape).bind (ofFields? d)

end LoggingSection

namespace Config

def shape : Document.Shape := ⟨["version", "monitor", "render", "logging"], true⟩

/-- The configuration in a document, valid or not. -/
def ofDocument? (d : Dialect) (v : Document) : Option Config := do
  let fields ← v.fields? d shape
  let version ← Document.optional? Document.word? standard.version fields "version"
  let monitor ←
    Document.optional? (MonitorSection.ofDocument? d) standard.toMonitorSection fields "monitor"
  let render ←
    Document.optional? (RenderSection.ofDocument? d) standard.toRenderSection fields "render"
  let logging ←
    Document.optional? (LoggingSection.ofDocument? d) standard.toLoggingSection fields "logging"
  pure ⟨monitor, render, logging, version⟩

end Config

end CallWatch
