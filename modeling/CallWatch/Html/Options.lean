import CallWatch.Error

/-!
Limits of the HTML rendering, each at least one, and the failures of a rendering.
-/

namespace CallWatch

/-- The three limits, in the order in which they are checked. -/
inductive RenderLimit where
  | maxValueChars
  | maxArrayItems
  | maxDepth
  deriving DecidableEq

def RenderLimit.name : RenderLimit → String
  | .maxValueChars => "max_value_chars"
  | .maxArrayItems => "max_array_items"
  | .maxDepth => "max_depth"

structure RenderOptions where
  maxValueChars : Nat
  maxArrayItems : Nat
  maxDepth : Nat
  maxValueChars_pos : 0 < maxValueChars
  maxArrayItems_pos : 0 < maxArrayItems
  maxDepth_pos : 0 < maxDepth
  deriving DecidableEq

inductive RenderError where
  | zeroLimit (limit : RenderLimit)
  | write (cause : String)
  deriving DecidableEq

namespace RenderError

def message : RenderError → String
  | zeroLimit l => "render limit `" ++ l.name ++ "` must be at least 1"
  | write cause => "failed to write html: " ++ cause

def envelope (e : RenderError) : Envelope :=
  match e with
  | zeroLimit l =>
    (Envelope.expected ⟨"render", "invalid_limit"⟩ e.message).noting "limit" l.name
  | write _ => .invariant ⟨"render", "format"⟩ e.message

/-- A write that the destination refused. -/
def refusedWrite : RenderError := write "an error occurred when formatting an argument"

end RenderError

namespace RenderOptions

def standard : RenderOptions := ⟨255, 10, 5, by decide, by decide, by decide⟩

/-- The first limit that is zero is the error. -/
def ofLimits (chars items depth : Nat) : Except RenderError RenderOptions :=
  if hc : chars = 0 then .error (.zeroLimit .maxValueChars)
  else if hi : items = 0 then .error (.zeroLimit .maxArrayItems)
  else if hd : depth = 0 then .error (.zeroLimit .maxDepth)
  else .ok ⟨chars, items, depth, by omega, by omega, by omega⟩

end RenderOptions

end CallWatch
