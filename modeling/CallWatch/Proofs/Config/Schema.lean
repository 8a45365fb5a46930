import CallWatch.Config.Load
import CallWatch.Proofs.Documents

/-!
The fields of a configuration, and what a document says about each of them.

A field is the same thing in a configuration, in overrides, in settings and in a document. The two
readers of documents are read off field by field (`Config.get_of_ofDocument?`,
`ConfigOverrides.get_of_ofDocument?`): whatever else a document says, and in which form, a field
has the value that stands in its place. Overrides and settings come over a configuration field by
field as well (`ConfigOverrides.get_apply`, `Settings.get_apply`).
-/

namespace CallWatch

/-! ### Fields -/

inductive ConfigSection where
  | monitor
  | render
  | logging

namespace ConfigSection

def name : ConfigSection → String
  | monitor => "monitor"
  | render => "render"
  | logging => "logging"

def shape : ConfigSection → Document.Shape
  | monitor => MonitorSection.shape
  | render => RenderSection.shape
  | logging => LoggingSection.shape

lemma name_mem (k : ConfigSection) : k.name ∈ Config.shape.names := by
  cases k <;> decide

end ConfigSection

inductive ConfigField where
  | version
  | autoStart
  | maxValueChars
  | maxArrayItems
  | maxDepth
  | level
  | format
  deriving DecidableEq

namespace ConfigField

def Value : ConfigField → Type
  | version => UInt32
  | autoStart => Bool
  | maxValueChars => UInt32
  | maxArrayItems => UInt32
  | maxDepth => UInt32
  | level => String
  | format => LogFormat

def name : ConfigField → String
  | version => "version"
  | autoStart => "autoStart"
  | maxValueChars => "maxValueChars"
  | maxArrayItems => "maxArrayItems"
  | maxDepth => "maxDepth"
  | level => "level"
  | format => "format"

/-- The section that a field stands in; the version stands in none. -/
def home : ConfigField → Option ConfigSection
  | version => none
  | autoStart => some .monitor
  | maxValueChars | maxArrayItems | maxDepth => some .render
  | level | format => some .logging

/-- The record that has the place of a field. -/
def entries (f : ConfigField) (top : Record Document)
    (sections : ConfigSection → Record Document) : Record Document :=
  match f.home with
  | none => top
  | some k => sections k

/-- The value that a document stands for in the place of a field. -/
def read? (d : Dialect) : (f : ConfigField) → Document → Option f.Value
  | version => Document.word?
  | autoStart => Document.bool?
  | maxValueChars => Document.word?
  | maxArrayItems => Document.word?
  | maxDepth => Document.word?
  | level => Document.text?
  | format => Document.variant? d LogFormat.named?

lemma name_mem_top {f : ConfigField} (h : f.home = none) : f.name ∈ Config.shape.names := by
  cases f with
  | version => decide
  | _ => exact absurd h nofun

lemma name_mem {f : ConfigField} {k : ConfigSection} (h : f.home = some k) :
    f.name ∈ k.shape.names := by
  cases f with
  | version => exact absurd h nofun
  | _ =>
    obtain rfl := Option.some.inj h
    decide

lemma read?_null (d : Dialect) (f : ConfigField) : f.read? d .null = none := by
  cases f <;> rfl

end ConfigField

namespace Config

def get (c : Config) : (f : ConfigField) → f.Value
  | .version => c.version
  | .autoStart => c.autoStart
  | .maxValueChars => c.maxValueChars
  | .maxArrayItems => c.maxArrayItems
  | .maxDepth => c.maxDepth
  | .level => c.level
  | .format => c.format

def ofFields (value : (f : ConfigField) → f.Value) : Config where
  version := value .version
  autoStart := value .autoStart
  maxValueChars := value .maxValueChars
  maxArrayItems := value .maxArrayItems
  maxDepth := value .maxDepth
  level := value .level
  format := value .format

@[simp] lemma get_ofFields (value : (f : ConfigField) → f.Value) (f : ConfigField) :
    (ofFields value).get f = value f := by
  cases f <;> rfl

lemma ext_get {c c' : Config} (h : ∀ f, c.get f = c'.get f) : c = c' := by
  obtain ⟨⟨autoStart⟩, ⟨maxValueChars, maxArrayItems, maxDepth⟩, ⟨level, format⟩, version⟩ := c
  obtain rfl : version = c'.version := h .version
  obtain rfl : autoStart = c'.autoStart := h .autoStart
  obtain rfl : maxValueChars = c'.maxValueChars := h .maxValueChars
  obtain rfl : maxArrayItems = c'.maxArrayItems := h .maxArrayItems
  obtain rfl : maxDepth = c'.maxDepth := h .maxDepth
  obtain rfl : level = c'.level := h .level
  obtain rfl : format = c'.format := h .format
  rfl

end Config

def ConfigOverrides.get (o : ConfigOverrides) : (f : ConfigField) → Option f.Value
  | .version => o.version
  | .autoStart => o.monitor.autoStart
  | .maxValueChars => o.render.maxValueChars
  | .maxArrayItems => o.render.maxArrayItems
  | .maxDepth => o.render.maxDepth
  | .level => o.logging.level
  | .format => o.logging.format

/-- What settings give of a field; they have no version. -/
def Settings.get (s : Settings) : (f : ConfigField) → Option f.Value
  | .version => Option.none
  | .autoStart => s.autoStart
  | .maxValueChars => s.maxValueChars
  | .maxArrayItems => s.maxArrayItems
  | .maxDepth => s.maxDepth
  | .level => s.level
  | .format => s.format

@[simp] lemma Settings.get_none (f : ConfigField) : Settings.none.get f = Option.none := by
  cases f <;> rfl

@[simp] lemma ConfigOverrides.get_apply (o : ConfigOverrides) (c : Config) (f : ConfigField) :
    (o.apply c).get f = (o.get f).getD (c.get f) := by
  cases f <;> rfl

@[simp] lemma Settings.get_apply (s : Settings) (c : Config) (f : ConfigField) :
    (s.apply c).get f = (s.get f).getD (c.get f) := by
  cases f <;> rfl

/-! ### Places in a document -/

namespace ConfigField

/-- What a document says in the place of a field. -/
def member? (f : ConfigField) (v : Document) : Option Document :=
  match f.home with
  | none => v.lookup? Config.shape f.name
  | some s => (v.lookup? Config.shape s.name).bind (Document.lookup? s.shape f.name)

/-- The value that a document gives to a field. -/
def given? (f : ConfigField) (d : Dialect) (v : Document) : Option f.Value :=
  (f.member? v).bind (f.read? d)

end ConfigField

/-! ### Parts of a document -/

namespace Document

variable {d : Dialect} {v : Document} {α : Type} {read? : Document → Option α}
  {r : Record Document} {name : String}

lemma optional?_eq_some_iff {absent x : α} : optional? read? absent r name = some x ↔
    r.get? name = none ∧ absent = x ∨ ∃ w, r.get? name = some w ∧ read? w = some x := by
  rw [optional?]
  cases r.get? name <;> simp

lemma optional?_of_get? {absent x : α} (h : r.get? name = some v) (hread : read? v = some x) :
    optional? read? absent r name = some x :=
  optional?_eq_some_iff.mpr (.inr ⟨v, h, hread⟩)

lemma nullable?_eq_some_iff {x : Option α} : nullable? read? v = some x ↔
    v = .null ∧ none = x ∨ v ≠ .null ∧ ∃ a, read? v = some a ∧ some a = x := by
  rw [← Option.map_eq_some_iff]
  cases v <;> simp [nullable?]

/-- The entries of a section; a section that is missing has none. -/
def section? (d : Dialect) (s : Shape) (top : Record Document) (name : String) :
    Option (Record Document) :=
  optional? (fields? d s) [] top name

/-- A missing section is read as one without entries, if that is what stands in for it. -/
lemma optional?_section_iff {s : Shape} (read : Record Document → Option α) {absent x : α}
    (h : read [] = some absent) :
    optional? (fun w => (w.fields? d s).bind read) absent r name = some x ↔
      ∃ entries, section? d s r name = some entries ∧ read entries = some x := by
  rw [section?, optional?, optional?]
  cases r.get? name with
  | none => simp [h]
  | some w => exact Option.bind_eq_some_iff

lemma section?_of_get? {s : Shape} {entries : Record Document} (h : r.get? name = some v)
    (hread : v.fields? d s = some entries) : section? d s r name = some entries :=
  optional?_of_get? h hread

lemma get?_of_section? {s : Shape} {entries : Record Document} {key : String}
    (h : section? d s r key = some entries) (hname : name ∈ s.names) :
    entries.get? name = (r.get? key).bind (lookup? s name) := by
  rcases optional?_eq_some_iff.mp h with ⟨hmissing, rfl⟩ | ⟨w, hw, hentries⟩
  · rw [hmissing]
    rfl
  · rw [hw, Option.bind_some]
    exact get?_of_fields? hentries hname

/-- The entries of a document and those of its sections. -/
structure Entries (d : Dialect) (v : Document) (top : Record Document)
    (sections : ConfigSection → Record Document) : Prop where
  whole : v.fields? d Config.shape = some top
  parts : ∀ k : ConfigSection, section? d k.shape top k.name = some (sections k)

lemma Entries.of_sections {top monitor render logging : Record Document}
    (htop : v.fields? d Config.shape = some top)
    (hmonitor : section? d MonitorSection.shape top "monitor" = some monitor)
    (hrender : section? d RenderSection.shape top "render" = some render)
    (hlogging : section? d LoggingSection.shape top "logging" = some logging) :
    v.Entries d top fun | .monitor => monitor | .render => render | .logging => logging where
  whole := htop
  parts k := by
    cases k with
    | monitor => exact hmonitor
    | render => exact hrender
    | logging => exact hlogging

/-- A field stands where it is looked for. -/
lemma Entries.get? {top : Record Document} {sections : ConfigSection → Record Document}
    (h : v.Entries d top sections) (f : ConfigField) :
    (f.entries top sections).get? f.name = f.member? v := by
  rw [ConfigField.entries, ConfigField.member?]
  cases hhome : f.home with
  | none => exact get?_of_fields? h.whole (ConfigField.name_mem_top hhome)
  | some k =>
    rw [get?_of_section? (h.parts k) (ConfigField.name_mem hhome),
      get?_of_fields? h.whole k.name_mem]

end Document

/-! ### Configurations -/

section Configurations

variable {d : Dialect} {v : Document}

namespace Config

variable {c : Config}

/-- A document has a configuration if it has entries, and each field has its value where its place
is. -/
lemma ofDocument?_eq_some_iff : ofDocument? d v = some c ↔
    ∃ top sections, v.Entries d top sections ∧ ∀ f : ConfigField,
      Document.optional? (f.read? d) (standard.get f) (f.entries top sections) f.name =
        some (c.get f) := by
  unfold ofDocument?
  simp only [bind, pure, Option.bind_eq_some_iff, Option.some.injEq]
  constructor
  · rintro ⟨top, htop, _, hversion, _, hmonitor, _, hrender, _, hlogging, rfl⟩
    obtain ⟨monitor, hmonitorEntries, hmonitor⟩ :=
      (Document.optional?_section_iff MonitorSection.ofFields? rfl).mp hmonitor
    obtain ⟨render, hrenderEntries, hrender⟩ :=
      (Document.optional?_section_iff RenderSection.ofFields? rfl).mp hrender
    obtain ⟨logging, hloggingEntries, hlogging⟩ :=
      (Document.optional?_section_iff (LoggingSection.ofFields? d) rfl).mp hlogging
    simp only [MonitorSection.ofFields?, RenderSection.ofFields?, LoggingSection.ofFields?, bind,
      pure, Option.bind_eq_some_iff, Option.some.injEq] at hmonitor hrender hlogging
    obtain ⟨_, hautoStart, rfl⟩ := hmonitor
    obtain ⟨_, hchars, _, hitems, _, hdepth, rfl⟩ := hrender
    obtain ⟨_, hlevel, _, hformat, rfl⟩ := hlogging
    refine ⟨top, _, .of_sections htop hmonitorEntries hrenderEntries hloggingEntries, fun f => ?_⟩
    cases f with
    | version => exact hversion
    | autoStart => exact hautoStart
    | maxValueChars => exact hchars
    | maxArrayItems => exact hitems
    | maxDepth => exact hdepth
    | level => exact hlevel
    | format => exact hformat
  · rintro ⟨top, sections, hentries, hfields⟩
    have hmonitor : MonitorSection.ofFields? (sections .monitor) = some c.toMonitorSection :=
      Option.bind_eq_some_iff.mpr ⟨_, hfields .autoStart, rfl⟩
    have hrender : RenderSection.ofFields? (sections .render) = some c.toRenderSection :=
      Option.bind_eq_some_iff.mpr ⟨_, hfields .maxValueChars, Option.bind_eq_some_iff.mpr
        ⟨_, hfields .maxArrayItems, Option.bind_eq_some_iff.mpr ⟨_, hfields .maxDepth, rfl⟩⟩⟩
    have hlogging : LoggingSection.ofFields? d (sections .logging) = some c.toLoggingSection :=
      Option.bind_eq_some_iff.mpr ⟨_, hfields .level,
        Option.bind_eq_some_iff.mpr ⟨_, hfields .format, rfl⟩⟩
    exact ⟨top, hentries.whole, _, hfields .version,
      _, (Document.optional?_section_iff MonitorSection.ofFields? rfl).mpr
        ⟨_, hentries.parts .monitor, hmonitor⟩,
      _, (Document.optional?_section_iff RenderSection.ofFields? rfl).mpr
        ⟨_, hentries.parts .render, hrender⟩,
      _, (Document.optional?_section_iff (LoggingSection.ofFields? d) rfl).mpr
        ⟨_, hentries.parts .logging, hlogging⟩, rfl⟩

/-- **Configurations are read field by field.** -/
theorem get_of_ofDocument? (h : ofDocument? d v = some c) (f : ConfigField) :
    c.get f = (f.given? d v).getD (standard.get f) := by
  obtain ⟨top, sections, hentries, hfields⟩ := ofDocument?_eq_some_iff.mp h
  rw [ConfigField.given?, ← hentries.get?]
  rcases Document.optional?_eq_some_iff.mp (hfields f) with ⟨hmissing, hstandard⟩ | ⟨w, hw, hread⟩
  · rw [hmissing]
    exact hstandard.symm
  · rw [hw, Option.bind_some, hread, Option.getD_some]

/-- A field that is there has a value. -/
theorem isSome_given?_iff (h : ofDocument? d v = some c) (f : ConfigField) :
    (f.given? d v).isSome ↔ ∃ w, f.member? v = some w := by
  obtain ⟨top, sections, hentries, hfields⟩ := ofDocument?_eq_some_iff.mp h
  rw [ConfigField.given?, ← hentries.get?]
  rcases Document.optional?_eq_some_iff.mp (hfields f) with ⟨hmissing, -⟩ | ⟨w, hw, hread⟩
  · simp [hmissing]
  · simp [hw, hread]

end Config

end Configurations

/-! ### Overrides -/

section Overrides

variable {d : Dialect} {v : Document} {o : ConfigOverrides}

namespace ConfigOverrides

/-- Overrides are read in the places of the fields, where null leaves a field open. -/
lemma exists_entries (h : ofDocument? d v = some o) :
    ∃ top sections, v.Entries d top sections ∧ ∀ f : ConfigField,
      Document.optional? (Document.nullable? (f.read? d)) none (f.entries top sections) f.name =
        some (o.get f) := by
  unfold ofDocument? at h
  simp only [bind, pure, Option.bind_eq_some_iff, Option.some.injEq] at h
  obtain ⟨top, htop, _, hversion, _, hmonitor, _, hrender, _, hlogging, rfl⟩ := h
  obtain ⟨monitor, hmonitorEntries, hmonitor⟩ :=
    (Document.optional?_section_iff MonitorOverrides.ofFields? rfl).mp hmonitor
  obtain ⟨render, hrenderEntries, hrender⟩ :=
    (Document.optional?_section_iff RenderOverrides.ofFields? rfl).mp hrender
  obtain ⟨logging, hloggingEntries, hlogging⟩ :=
    (Document.optional?_section_iff (LoggingOverrides.ofFields? d) rfl).mp hlogging
  simp only [MonitorOverrides.ofFields?, RenderOverrides.ofFields?, LoggingOverrides.ofFields?,
    bind, pure, Option.bind_eq_some_iff, Option.some.injEq] at hmonitor hrender hlogging
  obtain ⟨_, hautoStart, rfl⟩ := hmonitor
  obtain ⟨_, hchars, _, hitems, _, hdepth, rfl⟩ := hrender
  obtain ⟨_, hlevel, _, hformat, rfl⟩ := hlogging
  refine ⟨top, _, .of_sections htop hmonitorEntries hrenderEntries hloggingEntries, fun f => ?_⟩
  cases f with
  | version => exact hversion
  | autoStart => exact hautoStart
  | maxValueChars => exact hchars
  | maxArrayItems => exact hitems
  | maxDepth => exact hdepth
  | level => exact hlevel
  | format => exact hformat

/-- **Overrides are read field by field.** -/
theorem get_of_ofDocument? (h : ofDocument? d v = some o) (f : ConfigField) :
    o.get f = f.given? d v := by
  obtain ⟨top, sections, hentries, hfields⟩ := exists_entries h
  rw [ConfigField.given?, ← hentries.get?]
  rcases Document.optional?_eq_some_iff.mp (hfields f) with ⟨hmissing, hopen⟩ | ⟨w, hw, hread⟩
  · rw [hmissing]
    exact hopen.symm
  · rw [hw, Option.bind_some]
    rcases Document.nullable?_eq_some_iff.mp hread with ⟨rfl, hopen⟩ | ⟨-, a, ha, hvalue⟩
    · rw [f.read?_null, hopen]
    · rw [ha, hvalue]

/-- A field that is there and not null has a value. -/
theorem isSome_given?_iff (h : ofDocument? d v = some o) (f : ConfigField) :
    (f.given? d v).isSome ↔ ∃ w, f.member? v = some w ∧ w ≠ .null := by
  obtain ⟨top, sections, hentries, hfields⟩ := exists_entries h
  rw [ConfigField.given?, ← hentries.get?]
  rcases Document.optional?_eq_some_iff.mp (hfields f) with ⟨hmissing, -⟩ | ⟨w, hw, hread⟩
  · simp [hmissing]
  · rcases Document.nullable?_eq_some_iff.mp hread with ⟨rfl, -⟩ | ⟨hnull, a, ha, -⟩
    · simp [hw, f.read?_null]
    · simp [hw, ha, hnull]

end ConfigOverrides

end Overrides

end CallWatch
