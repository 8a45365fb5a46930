import CallWatch.Proofs.Config.Schema
import CallWatch.Proofs.Json.Printing
import CallWatch.Proofs.Toml.Page

/-!
Printed configurations are read back.

The JSON text and the TOML text of a configuration stand for one document, which gives every field
its value. What comes of reading either text is thus what comes of validating the configuration,
and a valid one comes back as it is.
-/

namespace CallWatch

namespace Config

def sectionEntries (c : Config) : ConfigSection → Record Document
  | .monitor => [("autoStart", .bool c.autoStart)]
  | .render => [
    ("maxValueChars", .int c.maxValueChars.toNat),
    ("maxArrayItems", .int c.maxArrayItems.toNat),
    ("maxDepth", .int c.maxDepth.toNat)]
  | .logging => [("level", .text c.level), ("format", .text c.format.word)]

def entries (c : Config) : Record Document := [
  ("version", .int c.version.toNat),
  ("monitor", .record (c.sectionEntries .monitor)),
  ("render", .record (c.sectionEntries .render)),
  ("logging", .record (c.sectionEntries .logging))]

/-- The document that both texts of a configuration stand for. -/
def document (c : Config) : Document := .record c.entries

/-! ### JSON -/

lemma fits_word (n : UInt32) : Json.NumberLiteral.Fits n.toNat := by
  have hn := n.toNat_lt
  unfold Json.NumberLiteral.Fits UInt64.size
  omega

lemma isWhole_toJson (c : Config) : c.toJson.IsWhole := by
  simp [toJson, Json.IsWhole, Json.FieldsWhole, Json.nat, fits_word]

lemma document?_jsonText (c : Config) : Json.document? c.jsonText = some c.document :=
  have hspace : ['\n'].all Json.Scan.isSpace = true := rfl
  Json.document?_pretty c.isWhole_toJson hspace

/-! ### TOML -/

def page (c : Config) : Toml.Page where
  top := [("version", .number c.version.toNat)]
  sections := [
    ("monitor", [("autoStart", .bool c.autoStart)]),
    ("render", [
      ("maxValueChars", .number c.maxValueChars.toNat),
      ("maxArrayItems", .number c.maxArrayItems.toNat),
      ("maxDepth", .number c.maxDepth.toNat)]),
    ("logging", [("level", .text c.level), ("format", .text c.format.word)])]

lemma chars_page (c : Config) : c.page.chars = c.tomlChars := by
  simp [Toml.Page.chars, page, tomlChars]

lemma names_page (c : Config) : c.page.names = [Config.shape.names,
    MonitorSection.shape.names, RenderSection.shape.names, LoggingSection.shape.names] := rfl

lemma wellNamed_page (c : Config) : c.page.WellNamed where
  bare := by
    rw [names_page]
    decide
  nodup := by
    rw [names_page]
    decide

lemma document?_tomlText (c : Config) : Toml.document? c.tomlText = some c.document := by
  rw [tomlText, ← chars_page, Toml.Page.document?_chars c.wellNamed_page]
  rfl

/-! ### Validation -/

lemma levelOf?_text (l : LogLevel) : levelOf? l.text = some l := by cases l <;> decide

lemma firstOutside?_of_within {c : Config} (h : ∀ l, c.Within l) : c.firstOutside? = none :=
  List.find?_eq_none.mpr fun l _ => by simp [h l]

/-- What is valid stays as it is. -/
lemma validate_config (v : ValidConfig) : v.config.validate = .ok v := by
  obtain ⟨c, h⟩ := v
  obtain ⟨l, hl⟩ := h.level
  have hlevel : levelOf? c.level = some l := by rw [hl, levelOf?_text]
  have hsame : { c with level := l.text } = c := by rw [← hl]
  rw [validate, dif_pos h.version]
  split
  · rename_i l' hsome
    rw [firstOutside?_of_within h.within] at hsome
    exact absurd hsome nofun
  · simp only [hlevel, hsame]

end Config

/-! ### Reading -/

namespace Document

lemma word?_toNat (n : UInt32) : word? (.int n.toNat) = some n := by
  have hn : (n.toNat : Int) < UInt32.size := by exact_mod_cast n.toNat_lt
  rw [word?, if_pos ⟨Int.natCast_nonneg _, hn⟩, Int.toNat_natCast, UInt32.ofNat_toNat]

lemma variant?_word (d : Dialect) (f : LogFormat) :
    variant? d LogFormat.named? (.text f.word) = some f := by
  cases f <;> rfl

end Document

namespace Config

/-- The document of a configuration has every field in its place. -/
lemma exists_member?_document (c : Config) (f : ConfigField) :
    ∃ w, f.member? c.document = some w := by
  cases f <;> exact ⟨_, rfl⟩

lemma entries_document (d : Dialect) (c : Config) :
    c.document.Entries d c.entries c.sectionEntries where
  whole := Document.fields?_record_names rfl (by decide)
  parts k := by
    cases k with
    | monitor =>
      exact Document.section?_of_get? rfl (Document.fields?_record_names rfl (by decide))
    | render =>
      exact Document.section?_of_get? rfl (Document.fields?_record_names rfl (by decide))
    | logging =>
      exact Document.section?_of_get? rfl (Document.fields?_record_names rfl (by decide))

/-- The document of a configuration has that configuration. -/
lemma ofDocument?_document (d : Dialect) (c : Config) : ofDocument? d c.document = some c := by
  refine ofDocument?_eq_some_iff.mpr ⟨_, _, c.entries_document d, fun f => ?_⟩
  cases f with
  | version => exact Document.optional?_of_get? rfl (Document.word?_toNat c.version)
  | autoStart => exact Document.optional?_of_get? rfl rfl
  | maxValueChars => exact Document.optional?_of_get? rfl (Document.word?_toNat c.maxValueChars)
  | maxArrayItems => exact Document.optional?_of_get? rfl (Document.word?_toNat c.maxArrayItems)
  | maxDepth => exact Document.optional?_of_get? rfl (Document.word?_toNat c.maxDepth)
  | level => exact Document.optional?_of_get? rfl rfl
  | format => exact Document.optional?_of_get? rfl (Document.variant?_word d c.format)

/-- No field of it is left to its standard value. -/
lemma given?_document (d : Dialect) (c : Config) (f : ConfigField) :
    f.given? d c.document = some (c.get f) := by
  have hread := c.ofDocument?_document d
  have hgiven := (isSome_given?_iff hread f).mpr (c.exists_member?_document f)
  obtain ⟨x, hx⟩ := Option.isSome_iff_exists.mp hgiven
  rw [get_of_ofDocument? hread f, hx, Option.getD_some]

end Config

/-! ### Round trip -/

/-- The text of a configuration in either syntax. -/
def Config.printed (c : Config) : ConfigSyntax → String
  | .json => c.jsonText
  | .toml => c.tomlText

lemma Config.document?_printed (f : ConfigSyntax) (c : Config) :
    f.document? (c.printed f) = some c.document := by
  cases f with
  | json => exact c.document?_jsonText
  | toml => exact c.document?_tomlText

lemma Config.config?_printed (f : ConfigSyntax) (c : Config) :
    f.config? (c.printed f) = some c := by
  rw [ConfigSyntax.config?, document?_printed, Option.bind_some, ofDocument?_document]

lemma ValidConfig.parse_of_config? {f : ConfigSyntax} {text : String} {c : Config}
    (h : f.config? text = some c) : parse f text = c.validate.mapError ConfigError.envelope := by
  rw [parse, h]

/-- No configuration is refused as a text without one is. -/
lemma ConfigError.envelope_ne_malformed (e : ConfigError) (f : ConfigSyntax) (source : Source) :
    e.envelope ≠ f.malformed source := by
  intro h
  have hcode : e.code = f.code := congrArg Envelope.code h
  cases e <;> cases f <;> simp [code, ConfigSyntax.code] at hcode

/-- **Printed configurations are read back.** In either syntax the text of a configuration, valid
or not, has that configuration, and gives every field of it. Reading it is thus validating the
configuration: it gives the same valid configuration or the same error, and never the error of a
text without a configuration. A valid configuration comes back as it is. -/
theorem ValidConfig.parse_printed (f : ConfigSyntax) (c : Config) :
    parse f (c.printed f) = c.validate.mapError ConfigError.envelope ∧
      (f.config? (c.printed f) = some c ∧
        ∃ v, f.document? (c.printed f) = some v ∧
          ∀ k : ConfigField, k.given? f.dialect v = some (c.get k)) ∧
        (∀ source, parse f (c.printed f) ≠ .error (f.malformed source)) ∧
          ∀ v : ValidConfig, v.config = c → parse f (c.printed f) = .ok v := by
  have hconfig := c.config?_printed f
  have hparse : parse f (c.printed f) = c.validate.mapError ConfigError.envelope :=
    parse_of_config? hconfig
  refine ⟨hparse, ⟨hconfig, c.document, c.document?_printed f, c.given?_document f.dialect⟩, ?_, ?_⟩
  · intro source
    rw [hparse]
    cases c.validate with
    | ok v => exact nofun
    | error e => exact fun h => e.envelope_ne_malformed f source (Except.error.inj h)
  · rintro v rfl
    rw [hparse, Config.validate_config]
    rfl

end CallWatch
