import CallWatch.Cli.Reply
import CallWatch.Proofs.Config.RoundTrip

/-!
The commands on configurations.

Both load the configuration from the same sources in the same way, so they fail together, with
the same reply. What `config show` prints after its heading is a configuration text in the syntax
that it was asked for. The configuration in it is valid, so it comes back as it is when the text
is loaded without anything else, and is shown in the same way again.
-/

namespace CallWatch

/-! ### Loading what was saved -/

lemma Files.readText_toUTF8 {files : Files} {path text : String}
    (h : files path = .ok text.toUTF8) : files.readText path = .ok text := by
  rw [readText, h]
  simp only [bind, Except.bind, Text.fromUTF8?_toUTF8]
  rfl

/-- Without variables the environment has no settings. -/
lemma Settings.ofEnvironment_unset {env : Environment}
    (h : ∀ x : Variable, env x.name = Option.none) : ofEnvironment env = .ok none := by
  have hunset {α : Type} (x : Variable) (read? : String → Option α)
      (refusal : Variable → String → VariableError) :
      x.setting? env.text? read? refusal = .ok Option.none := by
    rw [Variable.setting?, Environment.text?, h]
    rfl
  rw [ofEnvironment, ofVariables]
  simp only [hunset]
  rfl

namespace ValidConfig

variable {f : ConfigSyntax} {files : Files} {path : String} {text : String}

lemma ofFile_of_text {c : Config} (hpath : ConfigSyntax.ofPath path = .ok f)
    (hfile : files path = .ok text.toUTF8) (hc : f.config? text = some c) :
    Config.ofFile files path = .ok c := by
  rw [Config.ofFile, hpath, Files.readText_toUTF8 hfile]
  show Config.ofText f text = .ok c
  rw [Config.ofText, hc]

/-- A valid configuration that was saved is loaded as it is. -/
lemma load_printed {env : Environment} (v : ValidConfig)
    (hpath : ConfigSyntax.ofPath path = .ok f)
    (hfile : files path = .ok (v.config.printed f).toUTF8)
    (henv : ∀ x : Variable, env x.name = none) : load env files (some path) none = .ok v := by
  have hbase := ofFile_of_text hpath hfile (v.config.config?_printed f)
  have hmerge : merge v.config .none = .ok v := by
    have hsame : Settings.none.apply v.config = v.config := rfl
    rw [merge, hsame, Config.validate_config]
    rfl
  rw [load, Settings.ofEnvironment_unset henv]
  show (Config.ofFile files path >>= fun c => finish c none .none) = .ok v
  rw [hbase]
  exact hmerge

end ValidConfig

namespace Cli

/-- Where and when a command runs, and how its reply tells times. -/
structure Occasion where
  env : Environment
  files : Files
  now : Instant
  later : Instant
  stamp : Stamp

namespace Occasion

def reply (on : Occasion) (mode : Mode) (c : Command) : Reply :=
  (c.run on.env on.files on.now on.later mode).1.reply on.stamp mode

/-- `config show` prints a configuration text, or puts a configuration into its JSON. -/
def Shows (on : Occasion) (path overrides : Option String) (form : ConfigSyntax) (text : String)
    (effective : Json) : Prop :=
  ∀ mode : Mode, (on.reply mode (.showConfig path overrides form)).exit = .ok ∧
    (on.reply mode (.showConfig path overrides form)).output =
      if mode.json then
        (Json.obj [("status", .str "ok"), ("configPath", pathJson path),
          ("effectiveConfig", effective)]).pretty ++ "\n"
      else "status: ok\nconfig:\n" ++ text

end Occasion

lemma ExitCode.number_ofKind_ne_zero (k : ErrorKind) : (ofKind k).number ≠ 0 := by
  cases k <;> decide

variable {on : Occasion} {path overrides : Option String}

namespace Occasion

/-- A failure to load is the whole reply of both commands. -/
lemma reply_of_load_error {e : Envelope} (he : ValidConfig.load on.env on.files path overrides =
    .error e) (form : ConfigSyntax) (mode : Mode) :
    on.reply mode (.showConfig path overrides form) = (Result.failed e).reply on.stamp mode ∧
      on.reply mode (.validateConfig path overrides) = (Result.failed e).reply on.stamp mode := by
  simp only [reply, Command.run, he, loaded, and_self]

lemma shows_of_load_ok {v : ValidConfig} (hv : ValidConfig.load on.env on.files path overrides =
    .ok v) (form : ConfigSyntax) :
    on.Shows path overrides form (v.config.printed form) v.config.toJson := by
  intro mode
  simp only [reply, Command.run, hv, loaded, Result.reply]
  refine ⟨rfl, ?_⟩
  split
  · rfl
  · cases form <;> rfl

lemma exit_validateConfig {v : ValidConfig} (hv : ValidConfig.load on.env on.files path overrides =
    .ok v) (mode : Mode) : (on.reply mode (.validateConfig path overrides)).exit = .ok := by
  simp only [reply, Command.run, hv, loaded, Result.reply, Result.exit]

end Occasion

/-- **The commands on configurations agree, and what is shown is shown again.** Showing a
configuration succeeds exactly if validating it does. If it cannot be loaded, both tell the same
error in the same words, with the exit code of its kind. If it can, the text that is shown of it
may be saved: under a name which stands for its syntax, without overrides and variables, at any
other time, the same text and the same JSON are shown of it. -/
theorem config_commands_agree (on : Occasion) (path overrides : Option String)
    (form : ConfigSyntax) :
    let shown (mode : Mode) := on.reply mode (.showConfig path overrides form)
    let validated (mode : Mode) := on.reply mode (.validateConfig path overrides)
    (∀ mode, (validated mode).exit.number = 0 ↔ (shown mode).exit.number = 0) ∧
      (∀ e, ValidConfig.load on.env on.files path overrides = .error e → ∀ mode,
        shown mode = (Result.failed e).reply on.stamp mode ∧ validated mode = shown mode ∧
          (shown mode).exit = .ofKind e.kind ∧ (shown mode).exit.number ≠ 0) ∧
      ∀ v, ValidConfig.load on.env on.files path overrides = .ok v →
        let text := v.config.printed form
        on.Shows path overrides form text v.config.toJson ∧
          ∀ (again : Occasion) (p : String), ConfigSyntax.ofPath p = .ok form →
            again.files p = .ok text.toUTF8 → (∀ x : Variable, again.env x.name = none) →
              again.Shows (some p) none form text v.config.toJson := by
  intro shown validated
  refine ⟨fun mode => ?_, fun e he mode => ?_, fun v hv => ?_⟩
  · cases hload : ValidConfig.load on.env on.files path overrides with
    | error e =>
      obtain ⟨hshown, hvalidated⟩ := on.reply_of_load_error hload form mode
      rw [show validated mode = _ from hvalidated, show shown mode = _ from hshown]
    | ok v =>
      obtain ⟨hshown, -⟩ := on.shows_of_load_ok hload form mode
      rw [show (validated mode).exit = _ from on.exit_validateConfig hload mode,
        show (shown mode).exit = _ from hshown]
  · obtain ⟨hshown, hvalidated⟩ := on.reply_of_load_error he form mode
    have hexit : (shown mode).exit = .ofKind e.kind := congrArg Reply.exit hshown
    refine ⟨hshown, hvalidated.trans hshown.symm, hexit, ?_⟩
    rw [hexit]
    exact ExitCode.number_ofKind_ne_zero e.kind
  · refine ⟨on.shows_of_load_ok hv form, fun again p hpath hfile henv => ?_⟩
    exact again.shows_of_load_ok (v.load_printed hpath hfile henv) form

/-- The name of a saved file can be written in any way that stands for its syntax. -/
example (text : ByteArray) : ConfigSyntax.ofPath "./saved.TOML" = .ok .toml ∧
    (FileTree.empty.addFile "saved.TOML" text).read "./saved.TOML" = .ok text := ⟨rfl, rfl⟩

end Cli

end CallWatch
