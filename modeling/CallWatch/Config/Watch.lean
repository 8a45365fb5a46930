import CallWatch.Config.Valid
import CallWatch.Monitor.Watch

/-!
The monitor that a configuration describes.

The limits of a configuration are words of 32 bits and become sizes of the machine; a limit that is
no size, or a rendering that refuses its limits, is an error. A monitor that is built this way has
not been started.
-/

namespace CallWatch

/-- A limit as a size of the machine. -/
def RenderLimit.size (l : RenderLimit) (value : UInt32) : Except Envelope Nat :=
  if value.toNat < USize.size then .ok value.toNat
  else .error ((Envelope.invariant ⟨"config", "invalid_limit"⟩
    ("render." ++ l.field ++ " does not fit in usize")).noting "field" l.field)

/-- The limits of a rendering as a configuration has them, valid or not. -/
def Config.renderOptions (c : Config) : Except Envelope RenderOptions := do
  let chars ← RenderLimit.maxValueChars.size c.maxValueChars
  let items ← RenderLimit.maxArrayItems.size c.maxArrayItems
  let depth ← RenderLimit.maxDepth.size c.maxDepth
  (RenderOptions.ofLimits chars items depth).mapError RenderError.envelope

/-- The monitor of a configuration. -/
def ValidConfig.watch (v : ValidConfig) : Except Envelope Watch := do
  let options ← v.config.renderOptions
  pure (.init (.html options))

end CallWatch
