import CallWatch.Proofs.Config.RoundTrip

/-!
Which source a field of a configuration comes from, and which failure is told.

A request is a call of one of the three loaders. Each source gives some of the fields, and the
sources are asked for one field after the other, whatever they say about the other fields. The
stages of a request may fail independently of each other; the first that does is the error.
-/

namespace CallWatch

lemma Except.exists_of_bind_eq_ok {ε α β : Type} {x : Except ε α} {f : α → Except ε β} {b : β}
    (h : x >>= f = .ok b) : ∃ a, x = .ok a ∧ f a = .ok b := by
  cases x with
  | error e => exact absurd h nofun
  | ok a => exact ⟨a, rfl, h⟩

/-! ### Requests -/

/-- The text of a configuration with its syntax. -/
structure ConfigText where
  form : ConfigSyntax
  text : String

namespace ConfigText

/-- What a text says in the place of a field. -/
def member? (t : ConfigText) (f : ConfigField) : Option Document :=
  (t.form.document? t.text).bind f.member?

/-- The value that a text gives to a field. -/
def given? (t : ConfigText) (f : ConfigField) : Option f.Value :=
  (t.member? f).bind (f.read? t.form.dialect)

/-- The failure of a text without a configuration. -/
def fault? (t : ConfigText) : Option Envelope :=
  match t.form.config? t.text with
  | some _ => none
  | none => some ((t.form.malformed .config).noting "source" "config")

/-- The text of a file, if its name tells the syntax and it can be read. -/
def ofFile? (files : Files) (path : String) : Option ConfigText :=
  match ConfigSyntax.ofPath path, files.readText path with
  | .ok form, .ok text => some ⟨form, text⟩
  | _, _ => none

variable {t : ConfigText} {c : Config} {f : ConfigField}

lemma member?_eq {v : Document} (h : t.form.document? t.text = some v) :
    t.member? f = f.member? v := by
  rw [member?, h, Option.bind_some]

/-- A configuration has the values that its text gives, and else the standard ones. -/
lemma get_config (h : t.form.config? t.text = some c) :
    c.get f = (t.given? f).getD (Config.standard.get f) := by
  obtain ⟨v, hdocument, hread⟩ := Option.bind_eq_some_iff.mp h
  rw [given?, member?_eq hdocument, Config.get_of_ofDocument? hread]
  rfl

lemma isSome_given?_iff (h : t.form.config? t.text = some c) :
    (t.given? f).isSome ↔ ∃ w, t.member? f = some w := by
  obtain ⟨v, hdocument, hread⟩ := Option.bind_eq_some_iff.mp h
  rw [given?, member?_eq hdocument, ← Config.isSome_given?_iff hread]
  rfl

end ConfigText

namespace ConfigOverrides

variable {text : String} {o : ConfigOverrides} {f : ConfigField}

/-- Overrides have the values that their text gives. -/
lemma get_of_ofText? (h : ofText? text = some o) :
    o.get f = ConfigText.given? ⟨.json, text⟩ f := by
  obtain ⟨v, hdocument, hread⟩ := Option.bind_eq_some_iff.mp h
  have hmember : ConfigText.member? ⟨.json, text⟩ f = f.member? v :=
    ConfigText.member?_eq hdocument
  rw [ConfigText.given?, hmember, get_of_ofDocument? hread]
  rfl

lemma isSome_given?_iff_ne_null (h : ofText? text = some o) :
    (ConfigText.given? ⟨.json, text⟩ f).isSome ↔
      ∃ w, ConfigText.member? ⟨.json, text⟩ f = some w ∧ w ≠ .null := by
  obtain ⟨v, hdocument, hread⟩ := Option.bind_eq_some_iff.mp h
  have hmember : ConfigText.member? ⟨.json, text⟩ f = f.member? v :=
    ConfigText.member?_eq hdocument
  rw [ConfigText.given?, hmember, ← isSome_given?_iff hread]
  rfl

end ConfigOverrides

/-- A call of one of the loaders: with a JSON text, with the path of a file, or with such a path
and the environment of the process. -/
inductive LoadRequest where
  | text (config overrides : Option String) (env : Settings)
  | file (files : Files) (path overrides : Option String) (env : Settings)
  | process (env : Environment) (files : Files) (path overrides : Option String)

inductive ConfigLayer where
  | config
  | overrides
  | environment
  deriving DecidableEq

def ConfigLayer.rank : ConfigLayer → Nat
  | config => 0
  | overrides => 1
  | environment => 2

inductive LoadStage where
  | environment
  | extension
  | read
  | config
  | overrides
  | validation
  deriving DecidableEq

/-- All stages, in their order. -/
def LoadStage.all : List LoadStage :=
  [environment, extension, read, config, overrides, validation]

namespace LoadRequest

def run : LoadRequest → Except Envelope ValidConfig
  | text config overrides env => ValidConfig.ofSources config overrides env
  | file files path overrides env => ValidConfig.ofPath files path overrides env
  | process env files path overrides => ValidConfig.load env files path overrides

def env : LoadRequest → Except VariableError Settings
  | text _ _ env => .ok env
  | file _ _ _ env => .ok env
  | process env _ _ _ => Settings.ofEnvironment env

def overrides : LoadRequest → Option String
  | text _ overrides _ => overrides
  | file _ _ overrides _ => overrides
  | process _ _ _ overrides => overrides

/-- The path of the file that is to be read. -/
def filePath : LoadRequest → Option (Files × String)
  | text _ _ _ => none
  | file files path _ _ => path.map (files, ·)
  | process _ files path _ => path.map (files, ·)

/-- The text of the configuration, as far as it can be had. -/
def configText : LoadRequest → Option ConfigText
  | text config _ _ => config.map (⟨.json, ·⟩)
  | file files path _ _ => path.bind (ConfigText.ofFile? files)
  | process _ files path _ => path.bind (ConfigText.ofFile? files)

/-- The value that a source gives to a field. -/
def given (r : LoadRequest) : ConfigLayer → (f : ConfigField) → Option f.Value
  | .environment, f => r.env.toOption.bind (·.get f)
  | .overrides, f => r.overrides.bind fun t => ConfigText.given? ⟨.json, t⟩ f
  | .config, f => r.configText.bind (·.given? f)

/-- The value of a field: that of the environment, else that of the overrides, else that of the
configuration text, else the standard one. -/
def value (r : LoadRequest) (f : ConfigField) : f.Value :=
  ((r.given .environment f).or ((r.given .overrides f).or (r.given .config f))).getD
    (Config.standard.get f)

def merged (r : LoadRequest) : Config := .ofFields r.value

/-- The failure of a stage, if it has what it needs and fails. -/
def fault? (r : LoadRequest) : LoadStage → Option Envelope
  | .environment => match r.env with
    | .ok _ => none
    | .error e => some e.envelope
  | .extension => r.filePath.bind fun (_, path) => match ConfigSyntax.ofPath path with
    | .ok _ => none
    | .error e => some e
  | .read => r.filePath.bind fun (files, path) => match files.readText path with
    | .ok _ => none
    | .error e => some (e.envelope path)
  | .config => r.configText.bind ConfigText.fault?
  | .overrides => r.overrides.bind fun t => match ConfigOverrides.ofText? t with
    | some _ => none
    | none => some ((ConfigSyntax.json.malformed .overrides).noting "source" "overrides")
  | .validation => match r.merged.validate with
    | .ok _ => none
    | .error e => some e.envelope

/-- Nothing fails before the validation. -/
def Parses (r : LoadRequest) : Prop := ∀ s, s ≠ .validation → r.fault? s = none

end LoadRequest

/-- The values of a field that are valid. -/
def ConfigField.Accepts : (f : ConfigField) → f.Value → Prop
  | version, (n : UInt32) => n = Config.currentVersion
  | maxValueChars, (n : UInt32) => 1 ≤ n.toNat ∧ n.toNat ≤ RenderLimit.maxValueChars.greatest
  | maxArrayItems, (n : UInt32) => 1 ≤ n.toNat ∧ n.toNat ≤ RenderLimit.maxArrayItems.greatest
  | maxDepth, (n : UInt32) => 1 ≤ n.toNat ∧ n.toNat ≤ RenderLimit.maxDepth.greatest
  | level, (s : String) => ∃ l, Config.levelOf? s = some l
  | autoStart, _ => True
  | format, _ => True

/-! ### Sources -/

namespace LoadRequest

/-- A part of a request fails with its fault, or it has a result that is as it should be. -/
def Supplies {α : Type} (x : Except Envelope α) (fault : Option Envelope) (good : α → Prop) :
    Prop :=
  match fault with
  | some e => x = .error e
  | none => ∃ a, x = .ok a ∧ good a

/-- The configuration over another one in the fields that are given. -/
def Over (given : (f : ConfigField) → Option f.Value) (base c : Config) : Prop :=
  ∀ f, c.get f = (given f).getD (base.get f)

variable {r : LoadRequest}

/-- The configuration that the overrides and the environment come over. -/
def base : LoadRequest → Except Envelope Config
  | text config _ _ => Config.orStandard (Config.ofText .json) config
  | file files path _ _ => Config.orStandard (Config.ofFile files) path
  | process _ files path _ => Config.orStandard (Config.ofFile files) path

/-- All loaders go the same way. -/
lemma run_eq (r : LoadRequest) : r.run = (do
    let env ← r.env.mapError VariableError.envelope
    let base ← r.base
    ValidConfig.finish base r.overrides env) := by
  cases r <;> rfl

lemma supplies_environment (r : LoadRequest) :
    Supplies (r.env.mapError VariableError.envelope) (r.fault? .environment) fun s =>
      ∀ f, s.get f = r.given .environment f := by
  rw [fault?]
  cases henv : r.env with
  | ok s => exact ⟨s, rfl, fun f => by rw [given, henv]; rfl⟩
  | error e => rfl

lemma supplies_none : Supplies (.ok Config.standard) none (Over (fun _ => none) .standard) :=
  ⟨_, rfl, fun _ => rfl⟩

lemma supplies_text (t : ConfigText) :
    Supplies (Config.ofText t.form t.text) t.fault? (Over t.given? .standard) := by
  rw [ConfigText.fault?, Config.ofText]
  cases hconfig : t.form.config? t.text with
  | none => rfl
  | some c => exact ⟨c, rfl, fun _ => ConfigText.get_config hconfig⟩

lemma supplies_overrides (r : LoadRequest) (base : Config) :
    Supplies (base.overridden r.overrides) (r.fault? .overrides)
      (Over (r.given .overrides) base) := by
  have hgiven (f : ConfigField) : r.given .overrides f =
      r.overrides.bind fun t => ConfigText.given? ⟨.json, t⟩ f := rfl
  rw [fault?]
  cases htext : r.overrides with
  | none => exact ⟨base, rfl, fun f => by rw [hgiven, htext]; rfl⟩
  | some t =>
    rw [Option.bind_some, Config.overridden, ConfigOverrides.ofText]
    cases hoverrides : ConfigOverrides.ofText? t with
    | none => rfl
    | some o =>
      refine ⟨o.apply base, rfl, fun f => ?_⟩
      rw [hgiven, htext, Option.bind_some, ConfigOverrides.get_apply,
        ConfigOverrides.get_of_ofText? hoverrides]

lemma supplies_file (files : Files) (path : String) :
    Supplies (Config.ofFile files path)
      ((match ConfigSyntax.ofPath path with
        | .ok _ => none
        | .error e => some e).or ((match files.readText path with
        | .ok _ => none
        | .error e => some (e.envelope path)).or
          ((ConfigText.ofFile? files path).bind ConfigText.fault?)))
      (Over (fun f => (ConfigText.ofFile? files path).bind (·.given? f)) .standard) := by
  rw [ConfigText.ofFile?, Config.ofFile]
  cases hform : ConfigSyntax.ofPath path with
  | error e => rfl
  | ok form =>
    cases htext : files.readText path with
    | error e => rfl
    | ok text => exact supplies_text ⟨form, text⟩

lemma findSome?_cons_or (s : LoadStage) (ss : List LoadStage) :
    (s :: ss).findSome? r.fault? = (r.fault? s).or (ss.findSome? r.fault?) := by
  rw [List.findSome?_cons]
  cases r.fault? s <;> rfl

lemma supplies_config (r : LoadRequest) :
    Supplies r.base ([.extension, .read, .config].findSome? r.fault?)
      (Over (r.given .config) .standard) := by
  simp only [findSome?_cons_or, List.findSome?_nil, Option.or_none]
  cases r with
  | text config _ _ =>
    cases config with
    | none => exact supplies_none
    | some t => exact supplies_text ⟨.json, t⟩
  | file files path _ _ =>
    cases path with
    | none => exact supplies_none
    | some p => exact supplies_file files p
  | process _ files path _ =>
    cases path with
    | none => exact supplies_none
    | some p => exact supplies_file files p

/-! ### Stages -/

/-- The first failure before the validation. -/
def early? (r : LoadRequest) : Option Envelope :=
  (r.fault? .environment).or
    (([.extension, .read, .config].findSome? r.fault?).or (r.fault? .overrides))

lemma findSome?_all (r : LoadRequest) :
    LoadStage.all.findSome? r.fault? = r.early?.or (r.fault? .validation) := by
  simp only [LoadStage.all, early?, findSome?_cons_or, List.findSome?_nil, Option.or_none,
    Option.or_assoc]

lemma parses_iff (r : LoadRequest) : r.Parses ↔ r.early? = none := by
  simp only [early?, findSome?_cons_or, List.findSome?_nil, Option.or_none, Option.or_eq_none_iff]
  constructor
  · intro h
    exact ⟨h _ nofun, ⟨h _ nofun, h _ nofun, h _ nofun⟩, h _ nofun⟩
  · rintro ⟨henvironment, ⟨hextension, hread, hconfig⟩, hoverrides⟩ s hs
    cases s with
    | environment => exact henvironment
    | extension => exact hextension
    | read => exact hread
    | config => exact hconfig
    | overrides => exact hoverrides
    | validation => exact absurd rfl hs

/-- The sources, one over the other, make the values field by field. -/
lemma merge_eq {base changed : Config} {env : Settings}
    (hbase : Over (r.given .config) .standard base)
    (hchanged : Over (r.given .overrides) base changed)
    (henv : ∀ f, env.get f = r.given .environment f) :
    ValidConfig.merge changed env = r.merged.validate.mapError ConfigError.envelope := by
  have hmerged : env.apply changed = r.merged := by
    refine Config.ext_get fun f => ?_
    rw [Settings.get_apply, henv, hchanged, hbase, merged, Config.get_ofFields, value,
      Option.getD_or, Option.getD_or]
  rw [ValidConfig.merge, hmerged]

/-- A request fails with its first failure before the validation, and without one it gives what
comes of the validation. -/
lemma run_eq_early (r : LoadRequest) : r.run = match r.early? with
    | some e => .error e
    | none => r.merged.validate.mapError ConfigError.envelope := by
  have henvironment := r.supplies_environment
  have hconfig := r.supplies_config
  rw [run_eq, early?]
  cases hfault : r.fault? .environment with
  | some e =>
    rw [hfault] at henvironment
    rw [show _ = _ from henvironment]
    rfl
  | none =>
    rw [hfault] at henvironment
    obtain ⟨env, henv, hgivenEnv⟩ := henvironment
    rw [henv, Option.none_or]
    cases hfault : [.extension, .read, .config].findSome? r.fault? with
    | some e =>
      rw [hfault] at hconfig
      rw [show _ = _ from hconfig]
      rfl
    | none =>
      rw [hfault] at hconfig
      obtain ⟨base, hbase, hgivenBase⟩ := hconfig
      have hoverrides := r.supplies_overrides base
      rw [hbase, Option.none_or]
      show ValidConfig.finish base r.overrides env = _
      rw [ValidConfig.finish]
      cases hfault : r.fault? .overrides with
      | some e =>
        rw [hfault] at hoverrides
        rw [show _ = _ from hoverrides]
        rfl
      | none =>
        rw [hfault] at hoverrides
        obtain ⟨changed, hchanged, hgivenChanged⟩ := hoverrides
        rw [hchanged]
        exact merge_eq hgivenBase hgivenChanged hgivenEnv

lemma run_of_parses (h : r.Parses) :
    r.run = r.merged.validate.mapError ConfigError.envelope := by
  rw [run_eq_early, r.parses_iff.mp h]

lemma run_eq_error_iff (r : LoadRequest) (e : Envelope) :
    r.run = .error e ↔ LoadStage.all.findSome? r.fault? = some e := by
  rw [run_eq_early, findSome?_all]
  cases r.early? with
  | some e' => simp
  | none =>
    rw [Option.none_or, fault?]
    cases r.merged.validate with
    | ok v => simp [Except.mapError]
    | error e' => simp [Except.mapError]

end LoadRequest

/-! ### Validation -/

/-- A configuration is valid field by field. -/
lemma Config.exists_validate_iff (c : Config) :
    (∃ v, c.validate = .ok v) ↔ ∀ f : ConfigField, f.Accepts (c.get f) := by
  constructor
  · rintro ⟨v, hv⟩ f
    unfold validate at hv
    split at hv
    case isFalse => cases hv
    case isTrue hversion =>
      split at hv
      case h_1 => cases hv
      case h_2 hwithin =>
        cases hlevel : levelOf? c.level with
        | none =>
          simp only [hlevel] at hv
          cases hv
        | some l =>
          cases f with
          | version => exact hversion
          | autoStart => trivial
          | maxValueChars => exact within_of_firstOutside? hwithin .maxValueChars
          | maxArrayItems => exact within_of_firstOutside? hwithin .maxArrayItems
          | maxDepth => exact within_of_firstOutside? hwithin .maxDepth
          | level => exact ⟨l, hlevel⟩
          | format => trivial
  · intro h
    have hwithin (l : RenderLimit) : c.Within l := by
      cases l with
      | maxValueChars => exact h .maxValueChars
      | maxArrayItems => exact h .maxArrayItems
      | maxDepth => exact h .maxDepth
    have hversion : c.version = currentVersion := h .version
    obtain ⟨l, hlevel⟩ : ∃ l, levelOf? c.level = some l := h .level
    rw [validate, dif_pos hversion]
    split
    · rename_i hsome
      rw [firstOutside?_of_within hwithin] at hsome
      cases hsome
    · rw [hlevel]
      exact ⟨_, rfl⟩

/-! ### Precedence -/

namespace LoadRequest

variable {r : LoadRequest} {f : ConfigField} {l : ConfigLayer}

/-- The value of a field is that of the highest source which gives it. -/
lemma value_eq_of_given {x : f.Value} (h : r.given l f = some x)
    (htop : ∀ k : ConfigLayer, l.rank < k.rank → r.given k f = none) : r.value f = x := by
  rw [value]
  cases l with
  | environment => rw [h]; rfl
  | overrides => rw [htop .environment (by decide), h]; rfl
  | config => rw [htop .environment (by decide), htop .overrides (by decide), h]; rfl

/-- Below a source that gives a field, nothing that is said about the field matters. -/
lemma value_eq_of_replaced {r' : LoadRequest} (h : ∀ k, k ≠ l → r.given k f = r'.given k f)
    (hreplaced : ∃ k : ConfigLayer, l.rank < k.rank ∧ (r.given k f).isSome) :
    r.value f = r'.value f := by
  obtain ⟨k, hrank, hgiven⟩ := hreplaced
  obtain ⟨x, hx⟩ := Option.isSome_iff_exists.mp hgiven
  rw [value, value]
  cases l with
  | environment => cases k <;> exact absurd hrank (by decide)
  | overrides =>
    cases k with
    | environment => rw [← h .environment nofun, hx]; rfl
    | _ => exact absurd hrank (by decide)
  | config =>
    rw [← h .environment nofun, ← h .overrides nofun]
    cases k with
    | environment => rw [hx]; rfl
    | overrides => rw [hx]; cases r.given .environment f <;> rfl
    | config => exact absurd hrank (by decide)

end LoadRequest

lemma Config.ofFile_json {files : Files} {path text : String}
    (hextension : (Path.extension path).map Text.lower ∈ [none, some "json"])
    (htext : files.readText path = .ok text) :
    Config.ofFile files path = Config.ofText .json text := by
  have hform : ConfigSyntax.ofPath path = .ok .json := by
    rw [ConfigSyntax.ofPath, ConfigSyntax.ofExtension, ConfigSyntax.fromUTF8?_extension]
    rcases List.mem_cons.mp hextension with hnone | hjson
    · rw [hnone]
    · rw [List.mem_singleton.mp hjson]
      rfl
  rw [ofFile, hform, htext]
  rfl

/-- Loading by precedence. -/
structure LoadRequest.ByPrecedence (r : LoadRequest) : Prop where
  /-- Where nothing fails before, the outcome is what comes of validating the configuration that
  has, field by field, the value of the highest source that gives it. -/
  fieldwise : r.Parses → r.run = r.merged.validate.mapError ConfigError.envelope
  /-- A configuration text gives each field that it has. -/
  config_gives : r.Parses → ∀ f, (r.given .config f).isSome ↔
    ∃ t w, r.configText = some t ∧ t.member? f = some w
  /-- Overrides give each field that they have and that is not null. -/
  overrides_give : r.Parses → ∀ f, (r.given .overrides f).isSome ↔
    ∃ t w, r.overrides = some t ∧ ConfigText.member? ⟨.json, t⟩ f = some w ∧ w ≠ .null
  /-- No environment gives the version. -/
  environment_without_version : r.given .environment .version = none
  /-- What a source says about a field that a higher source gives changes nothing. -/
  replaced_harmless : ∀ (r' : LoadRequest) (l : ConfigLayer) (f : ConfigField),
    r.Parses → r'.Parses → (∀ k g, k ≠ l ∨ g ≠ f → r.given k g = r'.given k g) →
      (∃ k : ConfigLayer, l.rank < k.rank ∧ (r.given k f).isSome) → r.run = r'.run
  /-- An invalid value that no higher source replaces is an error of the validation. -/
  standing_harmful : ∀ (l : ConfigLayer) (f : ConfigField) (x : f.Value), r.Parses →
    r.given l f = some x → ¬f.Accepts x →
      (∀ k : ConfigLayer, l.rank < k.rank → r.given k f = none) →
        ∃ e : ConfigError, r.run = .error e.envelope
  /-- Only the values that are taken have to be valid. -/
  success_iff : (∃ v, r.run = .ok v) ↔ r.Parses ∧ ∀ f : ConfigField, f.Accepts (r.value f)
  /-- The error is that of the first stage that fails. -/
  first_failure : ∀ e, r.run = .error e ↔ LoadStage.all.findSome? r.fault? = some e
  /-- A file whose name has the extension of JSON or none is read as the JSON text in it. -/
  json_file : ∀ files path text env, r.filePath = some (files, path) →
    (Path.extension path).map Text.lower ∈ [none, some "json"] →
      files.readText path = .ok text → r.env = .ok env →
        r.run = ValidConfig.ofSources (some text) r.overrides env

namespace LoadRequest

variable {r : LoadRequest} {f : ConfigField} {l : ConfigLayer}

lemma isSome_given_config_iff (h : r.Parses) (f : ConfigField) :
    (r.given .config f).isSome ↔ ∃ t w, r.configText = some t ∧ t.member? f = some w := by
  have hfault := h .config nofun
  rw [fault?] at hfault
  rw [given]
  cases htext : r.configText with
  | none => simp
  | some t =>
    rw [htext, Option.bind_some, ConfigText.fault?] at hfault
    cases hconfig : t.form.config? t.text with
    | none =>
      rw [hconfig] at hfault
      exact absurd hfault nofun
    | some c => simpa using ConfigText.isSome_given?_iff hconfig

lemma isSome_given_overrides_iff (h : r.Parses) (f : ConfigField) :
    (r.given .overrides f).isSome ↔ ∃ t w, r.overrides = some t ∧
      ConfigText.member? ⟨.json, t⟩ f = some w ∧ w ≠ .null := by
  have hfault := h .overrides nofun
  rw [fault?] at hfault
  rw [given]
  cases htext : r.overrides with
  | none => simp
  | some t =>
    rw [htext, Option.bind_some] at hfault
    cases hoverrides : ConfigOverrides.ofText? t with
    | none =>
      rw [hoverrides] at hfault
      exact absurd hfault nofun
    | some o => simpa using ConfigOverrides.isSome_given?_iff_ne_null hoverrides

/-- No environment gives the version. -/
lemma given_environment_version (r : LoadRequest) : r.given .environment .version = none := by
  rw [given]
  cases r.env.toOption <;> rfl

lemma merged_eq_of_replaced {r' : LoadRequest}
    (hsame : ∀ k g, k ≠ l ∨ g ≠ f → r.given k g = r'.given k g)
    (hreplaced : ∃ k : ConfigLayer, l.rank < k.rank ∧ (r.given k f).isSome) :
    r.merged = r'.merged := by
  refine Config.ext_get fun g => ?_
  rw [merged, merged, Config.get_ofFields, Config.get_ofFields]
  by_cases hg : g = f
  · subst hg
    exact value_eq_of_replaced (fun k hk => hsame k g (Or.inl hk)) hreplaced
  · have hgiven (k : ConfigLayer) := hsame k g (Or.inr hg)
    rw [value, value, hgiven, hgiven, hgiven]

lemma exists_validate_merged_iff (r : LoadRequest) :
    (∃ v, r.merged.validate = .ok v) ↔ ∀ f : ConfigField, f.Accepts (r.value f) := by
  simpa [merged] using r.merged.exists_validate_iff

lemma exists_run_eq_error {x : f.Value} (h : r.Parses) (hx : r.given l f = some x)
    (hinvalid : ¬f.Accepts x)
    (htop : ∀ k : ConfigLayer, l.rank < k.rank → r.given k f = none) :
    ∃ e : ConfigError, r.run = .error e.envelope := by
  rw [run_of_parses h]
  cases hvalidate : r.merged.validate with
  | error e => exact ⟨e, rfl⟩
  | ok v =>
    have haccepts := r.exists_validate_merged_iff.mp ⟨v, hvalidate⟩ f
    rw [value_eq_of_given hx htop] at haccepts
    exact absurd haccepts hinvalid

lemma exists_run_eq_ok_iff (r : LoadRequest) :
    (∃ v, r.run = .ok v) ↔ r.Parses ∧ ∀ f : ConfigField, f.Accepts (r.value f) := by
  rw [← exists_validate_merged_iff, run_eq_early, parses_iff]
  cases r.early? with
  | some e => simp
  | none => cases r.merged.validate <;> simp [Except.mapError]

lemma base_of_filePath {files : Files} {path : String} (h : r.filePath = some (files, path)) :
    r.base = Config.ofFile files path := by
  cases r with
  | text _ _ _ => exact absurd h nofun
  | file _ path' _ _ | process _ _ path' _ =>
    cases path' with
    | none => exact absurd h nofun
    | some _ =>
      obtain ⟨rfl, rfl⟩ := Prod.mk.inj (Option.some.inj h)
      rfl

lemma run_json_file {files : Files} {path text : String} {env : Settings}
    (hpath : r.filePath = some (files, path))
    (hextension : (Path.extension path).map Text.lower ∈ [none, some "json"])
    (htext : files.readText path = .ok text) (henv : r.env = .ok env) :
    r.run = ValidConfig.ofSources (some text) r.overrides env := by
  have hbase : r.base = Config.ofText .json text :=
    (base_of_filePath hpath).trans (Config.ofFile_json hextension htext)
  have hloader : ValidConfig.ofSources (some text) r.overrides env =
      run (.text (some text) r.overrides env) := rfl
  rw [hloader, run_eq, run_eq, hbase, henv]
  rfl

end LoadRequest

/-- **Loading goes by precedence.** -/
theorem LoadRequest.byPrecedence (r : LoadRequest) : r.ByPrecedence where
  fieldwise := run_of_parses
  config_gives := isSome_given_config_iff
  overrides_give := isSome_given_overrides_iff
  environment_without_version := r.given_environment_version
  replaced_harmless := by
    intro r' l f h h' hsame hreplaced
    rw [run_of_parses h, run_of_parses h', merged_eq_of_replaced hsame hreplaced]
  standing_harmful := by
    intro l f x h hx hinvalid htop
    exact exists_run_eq_error h hx hinvalid htop
  success_iff := r.exists_run_eq_ok_iff
  first_failure := r.run_eq_error_iff
  json_file := by
    intro files path text env hpath hextension htext henv
    exact run_json_file hpath hextension htext henv

end CallWatch
