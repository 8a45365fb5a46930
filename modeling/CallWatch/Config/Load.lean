import CallWatch.Config.Environment
import CallWatch.Config.Overrides
import CallWatch.Config.Schema
import CallWatch.File.Tree
import CallWatch.Json.Document
import CallWatch.Text.Bytes
import CallWatch.Toml.Statement

/-!
Loading a configuration.

What nobody sets has its standard value; a configuration text goes before that, overrides go
before the text, and the environment goes before all. Only the result is validated. The
first step that fails gives the error.
-/

namespace CallWatch

inductive ConfigSyntax where
  | json
  | toml
  deriving DecidableEq

/-- Where a text comes from. -/
inductive Source where
  | config
  | overrides
  deriving DecidableEq

def Source.word : Source → String
  | config => "config"
  | overrides => "overrides"

namespace ConfigSyntax

def title : ConfigSyntax → String
  | json => "JSON"
  | toml => "TOML"

def code : ConfigSyntax → ErrorCode
  | json => ⟨"config", "invalid_json"⟩
  | toml => ⟨"config", "invalid_toml"⟩

def dialect : ConfigSyntax → Dialect
  | json => .json
  | toml => .toml

def document? : ConfigSyntax → String → Option Document
  | json => Json.document?
  | toml => Toml.document?

/-- A text that has no configuration. The readers of the two syntaxes say what is wrong with a text
in words of their own; here one sentence stands for all of them. -/
def malformed (f : ConfigSyntax) (source : Source) : Envelope :=
  .expected f.code
    ("invalid " ++ source.word ++ " " ++ f.title ++ ": the text is no settings document")

/-- The configuration of a text, valid or not. -/
def config? (f : ConfigSyntax) (text : String) : Option Config :=
  (f.document? text).bind (Config.ofDocument? f.dialect)

/-- The syntax that an extension stands for. Its bytes may be no text, and then they count as no
extension. -/
def ofExtension (extension : Option ByteArray) : Except Envelope ConfigSyntax :=
  match (extension.bind String.fromUTF8?).map Text.lower with
  | none => .ok json
  | some "json" => .ok json
  | some "toml" => .ok toml
  | some other =>
    .error ((Envelope.expected ⟨"config", "unsupported_format"⟩
      "unsupported config format; use .json or .toml").noting "extension" other)

/-- The syntax of the file at a path. -/
def ofPath (path : String) : Except Envelope ConfigSyntax :=
  ofExtension ((Path.extension path).map String.toUTF8)

/-- Where a path is a text, its extension is one. -/
theorem fromUTF8?_extension (path : String) :
    ((Path.extension path).map String.toUTF8).bind String.fromUTF8? = Path.extension path := by
  cases Path.extension path with
  | none => rfl
  | some extension => exact Text.fromUTF8?_toUTF8 extension

end ConfigSyntax

/-- The overrides of a text, which is always JSON. -/
def ConfigOverrides.ofText? (text : String) : Option ConfigOverrides :=
  (Json.document? text).bind (ofDocument? .json)

def ReadError.code : ReadError → ErrorCode
  | .notFound => ⟨"config", "config_file_not_found"⟩
  | .permissionDenied => ⟨"config", "config_file_permission_denied"⟩
  | _ => ⟨"config", "config_file_io"⟩

def ReadError.envelope (path : String) (e : ReadError) : Envelope :=
  (Envelope.expected e.code ("failed to read config file: " ++ e.message)).noting "path" path

namespace Config

/-- The configuration of a text that is loaded, valid or not. -/
def ofText (f : ConfigSyntax) (text : String) : Except Envelope Config :=
  match f.config? text with
  | some c => .ok c
  | none => .error ((f.malformed .config).noting "source" Source.config.word)

/-- The configuration of the file at a path. -/
def ofFile (files : Files) (path : String) : Except Envelope Config := do
  let f ← ConfigSyntax.ofPath path
  let text ← (files.readText path).mapError (ReadError.envelope path)
  ofText f text

/-- The standard configuration, unless there is something to read one from. -/
def orStandard (read : String → Except Envelope Config) :
    Option String → Except Envelope Config
  | none => .ok standard
  | some s => read s

end Config

def ConfigOverrides.ofText (text : String) : Except Envelope ConfigOverrides :=
  match ofText? text with
  | some o => .ok o
  | none =>
    .error ((ConfigSyntax.json.malformed .overrides).noting "source" Source.overrides.word)

/-- A configuration with the overrides of a text, if there is one. -/
def Config.overridden (c : Config) : Option String → Except Envelope Config
  | none => .ok c
  | some text => do
    let o ← ConfigOverrides.ofText text
    pure (o.apply c)

namespace ValidConfig

/-- The configuration of one text. -/
def parse (f : ConfigSyntax) (text : String) : Except Envelope ValidConfig :=
  match f.config? text with
  | some c => c.validate.mapError ConfigError.envelope
  | none => .error (f.malformed .config)

/-- The overrides come over a configuration, then the settings of an environment. -/
def finish (c : Config) (overrides : Option String) (env : Settings) :
    Except Envelope ValidConfig := do
  let c ← c.overridden overrides
  merge c env

/-- From a JSON text, overrides and the settings of an environment. -/
def ofSources (config overrides : Option String) (env : Settings) :
    Except Envelope ValidConfig := do
  let c ← Config.orStandard (Config.ofText .json) config
  finish c overrides env

/-- From a file, overrides and the settings of an environment. -/
def ofPath (files : Files) (path overrides : Option String) (env : Settings) :
    Except Envelope ValidConfig := do
  let c ← Config.orStandard (Config.ofFile files) path
  finish c overrides env

/-- From the environment of the process, a file and overrides. -/
def load (env : Environment) (files : Files) (path overrides : Option String) :
    Except Envelope ValidConfig := do
  let env ← (Settings.ofEnvironment env).mapError VariableError.envelope
  ofPath files path overrides env

end ValidConfig

end CallWatch
