import CallWatch.Config.Basic
import CallWatch.Error
import CallWatch.Html.Options
import CallWatch.Text.Quoted

/-!
Valid configurations.

`Config.validate` checks the version, then the limits, then the level, and changes nothing
but the spelling of the level. What is valid can be used: its limits are limits of a
rendering.
-/

namespace CallWatch

open CallWatch.Text

namespace RenderLimit

/-- The name of the limit in a configuration. -/
def field : RenderLimit → String
  | maxValueChars => "maxValueChars"
  | maxArrayItems => "maxArrayItems"
  | maxDepth => "maxDepth"

/-- The greatest value that a configuration may give. -/
def greatest : RenderLimit → Nat
  | maxValueChars => 65536
  | maxArrayItems => 10000
  | maxDepth => 64

/-- All limits, in the order in which they are checked. -/
def all : List RenderLimit := [maxValueChars, maxArrayItems, maxDepth]

end RenderLimit

inductive ConfigError where
  | unsupportedVersion (found : UInt32)
  | limitOutOfRange (limit : RenderLimit) (value : UInt32)
  | unknownLevel (value : String)
  deriving DecidableEq

namespace ConfigError

def number (n : UInt32) : String := Numeral.text n.toNat

def message : ConfigError → String
  | unsupportedVersion found =>
    "unsupported config version " ++ number found ++ " (supported: "
      ++ number Config.currentVersion ++ ")"
  | limitOutOfRange l v =>
    "render." ++ l.field ++ " must be between 1 and " ++ Numeral.text l.greatest ++ " (got "
      ++ number v ++ ")"
  | unknownLevel v =>
    "logging.level must be one of " ++ "|".intercalate (LogLevel.all.map LogLevel.text)
      ++ " (got " ++ quoted v ++ ")"

def code : ConfigError → ErrorCode
  | unsupportedVersion _ => ⟨"config", "unsupported_version"⟩
  | limitOutOfRange _ _ => ⟨"config", "invalid_limit"⟩
  | unknownLevel _ => ⟨"config", "invalid_log_level"⟩

def details : ConfigError → List (String × String)
  | unsupportedVersion found =>
    [("found", number found), ("supported", number Config.currentVersion)]
  | limitOutOfRange l v =>
    [("section", "render"), ("field", l.field), ("value", number v), ("min", "1"),
      ("max", Numeral.text l.greatest)]
  | unknownLevel v => [("value", v)]

def envelope (e : ConfigError) : Envelope :=
  { Envelope.expected e.code e.message with details := .ofPairs e.details }

end ConfigError

namespace Config

def limit (c : Config) : RenderLimit → UInt32
  | .maxValueChars => c.maxValueChars
  | .maxArrayItems => c.maxArrayItems
  | .maxDepth => c.maxDepth

/-- A limit that is within its range. -/
def Within (c : Config) (l : RenderLimit) : Prop :=
  1 ≤ (c.limit l).toNat ∧ (c.limit l).toNat ≤ l.greatest

instance (c : Config) (l : RenderLimit) : Decidable (c.Within l) :=
  inferInstanceAs (Decidable (_ ∧ _))

structure Valid (c : Config) : Prop where
  version : c.version = currentVersion
  within : ∀ l, c.Within l
  level : ∃ l : LogLevel, c.level = l.text

/-- The level that a text names, blanks around it and the case of its letters aside. -/
def levelOf? (s : String) : Option LogLevel := LogLevel.named? (lower (trim s))

end Config

structure ValidConfig where
  config : Config
  valid : config.Valid

namespace Config

/-- The first limit that is out of its range. -/
def firstOutside? (c : Config) : Option RenderLimit :=
  RenderLimit.all.find? fun l => !decide (c.Within l)

theorem within_of_firstOutside? {c : Config} (h : c.firstOutside? = none) (l : RenderLimit) :
    c.Within l := by
  have h := List.find?_eq_none.1 h l (by cases l <;> simp [RenderLimit.all])
  simpa using h

def validate (c : Config) : Except ConfigError ValidConfig :=
  if hv : c.version = currentVersion then
    match hw : c.firstOutside? with
    | some l => .error (.limitOutOfRange l (c.limit l))
    | none =>
      match levelOf? c.level with
      | none => .error (.unknownLevel c.level)
      | some l =>
        .ok ⟨{ c with level := l.text },
          ⟨hv, fun l => by simpa [Within, limit] using within_of_firstOutside? hw l, l, rfl⟩⟩
  else .error (.unsupportedVersion c.version)

end Config

namespace ValidConfig

def standard : ValidConfig :=
  ⟨.standard, rfl, fun l => by cases l <;> decide, .info, rfl⟩

instance : Inhabited ValidConfig := ⟨standard⟩

/-- The limits of a rendering. -/
def renderOptions (v : ValidConfig) : RenderOptions where
  maxValueChars := v.config.maxValueChars.toNat
  maxArrayItems := v.config.maxArrayItems.toNat
  maxDepth := v.config.maxDepth.toNat
  maxValueChars_pos := (v.valid.within .maxValueChars).1
  maxArrayItems_pos := (v.valid.within .maxArrayItems).1
  maxDepth_pos := (v.valid.within .maxDepth).1

end ValidConfig

end CallWatch
