import CallWatch.Config.Valid

/-!
Settings from environment variables.

A variable that is set has to hold a value of its kind; blanks around it do not count. The
first variable that does not, in the order of the settings, is the error. A variable of the
process whose value is no text counts as one that is not set. Settings come over a configuration
last, and the result is validated.
-/

namespace CallWatch

open CallWatch.Text

/-- The variables that are read, in order. -/
inductive Variable where
  | autoStart
  | maxValueChars
  | maxArrayItems
  | maxDepth
  | level
  | format
  deriving DecidableEq

def Variable.all : List Variable :=
  [.autoStart, .maxValueChars, .maxArrayItems, .maxDepth, .level, .format]

def Variable.name : Variable → String
  | autoStart => "TUNDRA_MONITOR_AUTO_START"
  | maxValueChars => "TUNDRA_RENDER_MAX_VALUE_CHARS"
  | maxArrayItems => "TUNDRA_RENDER_MAX_ARRAY_ITEMS"
  | maxDepth => "TUNDRA_RENDER_MAX_DEPTH"
  | level => "TUNDRA_LOG_LEVEL"
  | format => "TUNDRA_LOG_FORMAT"

inductive VariableError where
  | empty (v : Variable)
  | notBool (v : Variable) (value : String)
  | notNumber (v : Variable) (value : String)
  | notChoice (v : Variable) (value : String)
  deriving DecidableEq

namespace VariableError

def message : VariableError → String
  | empty v => v.name ++ " must be non-empty"
  | notBool v _ => v.name ++ " must be a boolean"
  | notNumber v _ => v.name ++ " must be an integer"
  | notChoice v _ => v.name ++ " has an unsupported value"

def code : VariableError → ErrorCode
  | empty _ => ⟨"config", "empty_env_var"⟩
  | notBool _ _ => ⟨"config", "invalid_env_bool"⟩
  | notNumber _ _ => ⟨"config", "invalid_env_int"⟩
  | notChoice _ _ => ⟨"config", "invalid_env_enum"⟩

def details : VariableError → List (String × String)
  | empty v => [("env_var", v.name)]
  | notBool v s | notNumber v s | notChoice v s => [("env_var", v.name), ("value", s)]

def envelope (e : VariableError) : Envelope :=
  { Envelope.expected e.code e.message with details := .ofPairs e.details }

end VariableError

namespace Variable

def bool? (s : String) : Option Bool :=
  let s := lower s
  if ["true", "1", "yes", "on"].contains s then some true
  else if ["false", "0", "no", "off"].contains s then some false
  else none

/-- A number below 2^32. -/
def word? (s : String) : Option UInt32 :=
  (Numeral.natural? s.toList).bind fun n => if n < UInt32.size then some (.ofNat n) else none

def level? (s : String) : Option String := (LogLevel.named? (lower s)).map LogLevel.text

/-- The value of a variable, if it is set: `read?` gets it without the blanks around it, and
an error tells it as it is. -/
def setting? {α : Type} (lookup : String → Option String) (v : Variable)
    (read? : String → Option α) (refusal : Variable → String → VariableError) :
    Except VariableError (Option α) :=
  match lookup v.name with
  | none => .ok none
  | some raw =>
    if trim raw = "" then .error (.empty v)
    else match read? (trim raw) with
      | some a => .ok (some a)
      | none => .error (refusal v raw)

end Variable

/-- The fields of a configuration that an environment gives; the version is none of them. -/
structure Settings where
  autoStart : Option Bool
  maxValueChars : Option UInt32
  maxArrayItems : Option UInt32
  maxDepth : Option UInt32
  level : Option String
  format : Option LogFormat
  deriving DecidableEq

namespace Settings

def none : Settings := ⟨.none, .none, .none, .none, .none, .none⟩

def isEmpty (s : Settings) : Bool := s = none

/-- The settings of an environment. -/
def ofVariables (lookup : String → Option String) : Except VariableError Settings := do
  let autoStart ← Variable.autoStart.setting? lookup Variable.bool? .notBool
  let maxValueChars ← Variable.maxValueChars.setting? lookup Variable.word? .notNumber
  let maxArrayItems ← Variable.maxArrayItems.setting? lookup Variable.word? .notNumber
  let maxDepth ← Variable.maxDepth.setting? lookup Variable.word? .notNumber
  let level ← Variable.level.setting? lookup Variable.level? .notChoice
  let format ← Variable.format.setting? lookup LogFormat.parse? .notChoice
  pure ⟨autoStart, maxValueChars, maxArrayItems, maxDepth, level, format⟩

/-- A configuration with the fields that the settings give. -/
def apply (s : Settings) (c : Config) : Config where
  version := c.version
  autoStart := s.autoStart.getD c.autoStart
  maxValueChars := s.maxValueChars.getD c.maxValueChars
  maxArrayItems := s.maxArrayItems.getD c.maxArrayItems
  maxDepth := s.maxDepth.getD c.maxDepth
  level := s.level.getD c.level
  format := s.format.getD c.format

end Settings

/-- The valid configuration that settings make of a configuration, which need not be valid. -/
def ValidConfig.merge (c : Config) (env : Settings) : Except Envelope ValidConfig :=
  (env.apply c).validate.mapError ConfigError.envelope

/-! ### Processes -/

/-- The variables of a process, as bytes. -/
abbrev Environment := String → Option ByteArray

/-- The value of a variable, if it is a text. -/
def Environment.text? (env : Environment) (name : String) : Option String :=
  (env name).bind String.fromUTF8?

/-- The settings of the environment of a process. -/
def Settings.ofEnvironment (env : Environment) : Except VariableError Settings :=
  Settings.ofVariables env.text?

end CallWatch
