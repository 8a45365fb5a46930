import CallWatch.Proofs.Config.RoundTrip

/-!
The schema of a configuration text and that of overrides agree.

There are two schemas, of four structures each: what is missing in a configuration has its standard
value, and what is missing in overrides is left open. They differ in what null is: it leaves a
field of the overrides open, and it is no value in a configuration. `Config.ofDocument?_eq_apply`
compares them structure by structure: of a document without null the configuration is what its
overrides make of the standard one. So loading a text in either place gives the same.
-/

namespace CallWatch

/-- A null stands somewhere in the document. -/
inductive Document.HasNull : Document → Prop where
  | null : HasNull .null
  | item {items : List Document} {v : Document} (hmem : v ∈ items) (h : HasNull v) :
    HasNull (.list items)
  | field {fields : List (String × Document)} {k : String} {v : Document}
    (hmem : (k, v) ∈ fields) (h : HasNull v) : HasNull (.record fields)

/-! ### Places -/

variable {v w : Document}

lemma Document.HasNull.of_lookup? {s : Document.Shape} {name : String} (hw : w.HasNull)
    (h : v.lookup? s name = some w) : v.HasNull := by
  match v with
  | .record fields => exact .field (Record.mem_of_get? h) hw
  | .list items => exact .item (List.of_mem_zip (Record.mem_of_get? h)).2 hw
  | .null | .bool _ | .int _ | .text _ | .other => exact absurd h nofun

lemma Document.HasNull.of_fields? {d : Dialect} {s : Shape} {r : Record Document} {name : String}
    (hfields : v.fields? d s = some r) (hname : name ∈ s.names) (hget : r.get? name = some w)
    (hw : w.HasNull) : v.HasNull :=
  hw.of_lookup? ((get?_of_fields? hfields hname).symm.trans hget)

/-- No entry of the record that is known by these names has a null in it. -/
def Document.NullFree (names : List String) (r : Record Document) : Prop :=
  ∀ name ∈ names, ∀ w, r.get? name = some w → ¬w.HasNull

lemma Document.nullFree_of_fields? {d : Dialect} {s : Shape} {r : Record Document}
    (h : ¬v.HasNull) (hfields : v.fields? d s = some r) : NullFree s.names r :=
  fun _ hname _ hget hw => h (hw.of_fields? hfields hname hget)

/-! ### Fields -/

namespace Document

variable {α β : Type} {r : Record Document} {name : String}

/-- Two readers of a part agree if they do so where it is there, and what they take where it is
missing agrees as well. -/
lemma optional?_map {read? : Document → Option α} {read'? : Document → Option β} (f : β → α)
    (absent : β) (h : ∀ w, r.get? name = some w → read? w = (read'? w).map f) :
    optional? read? (f absent) r name = (optional? read'? absent r name).map f := by
  rw [optional?, optional?]
  cases hget : r.get? name with
  | none => rfl
  | some w => exact h w hget

lemma map_nullable? {read? : Document → Option α} (a : α) (h : v ≠ .null) :
    (nullable? read? v).map (·.getD a) = read? v := by
  cases v with
  | null => exact absurd rfl h
  | _ => simp [nullable?]

/-- Over its standard value a field of overrides is the field of a configuration. -/
lemma optional?_eq_getD {names : List String} (read? : Document → Option α) (a : α)
    (h : NullFree names r) (hname : name ∈ names) :
    optional? read? a r name = (optional? (nullable? read?) none r name).map (·.getD a) := by
  refine optional?_map (·.getD a) none fun w hget => ?_
  refine (map_nullable? a ?_).symm
  rintro rfl
  exact h name hname _ hget .null

end Document

/-! ### Sections -/

section Sections

variable {d : Dialect}

def MonitorOverrides.apply (o : MonitorOverrides) (s : MonitorSection) : MonitorSection where
  autoStart := o.autoStart.getD s.autoStart

def RenderOverrides.apply (o : RenderOverrides) (s : RenderSection) : RenderSection where
  maxValueChars := o.maxValueChars.getD s.maxValueChars
  maxArrayItems := o.maxArrayItems.getD s.maxArrayItems
  maxDepth := o.maxDepth.getD s.maxDepth

def LoggingOverrides.apply (o : LoggingOverrides) (s : LoggingSection) : LoggingSection where
  level := o.level.getD s.level
  format := o.format.getD s.format

lemma MonitorSection.ofDocument?_eq_apply (h : ¬v.HasNull) :
    ofDocument? d v = (MonitorOverrides.ofDocument? d v).map (·.apply standard) := by
  rw [ofDocument?, MonitorOverrides.ofDocument?, show MonitorOverrides.shape = shape from rfl]
  cases hfields : v.fields? d shape with
  | none => rfl
  | some r =>
    have hfree := Document.nullFree_of_fields? h hfields
    have hautoStart := Document.optional?_eq_getD Document.bool? standard.autoStart hfree
      (show "autoStart" ∈ shape.names by decide)
    simp only [Option.bind_some, ofFields?, hautoStart, MonitorOverrides.ofFields?, bind, pure,
      Option.bind_map, Option.map_bind, Function.comp_def, Option.map_some]
    rfl

lemma RenderSection.ofDocument?_eq_apply (h : ¬v.HasNull) :
    ofDocument? d v = (RenderOverrides.ofDocument? d v).map (·.apply standard) := by
  rw [ofDocument?, RenderOverrides.ofDocument?, show RenderOverrides.shape = shape from rfl]
  cases hfields : v.fields? d shape with
  | none => rfl
  | some r =>
    have hword (a : UInt32) {name : String} (hname : name ∈ shape.names) :=
      Document.optional?_eq_getD Document.word? a (Document.nullFree_of_fields? h hfields) hname
    have hchars := hword standard.maxValueChars (show "maxValueChars" ∈ shape.names by decide)
    have hitems := hword standard.maxArrayItems (show "maxArrayItems" ∈ shape.names by decide)
    have hdepth := hword standard.maxDepth (show "maxDepth" ∈ shape.names by decide)
    simp only [Option.bind_some, ofFields?, hchars, hitems, hdepth, RenderOverrides.ofFields?, bind,
      pure, Option.bind_map, Option.map_bind, Function.comp_def, Option.map_some]
    rfl

lemma LoggingSection.ofDocument?_eq_apply (h : ¬v.HasNull) :
    ofDocument? d v = (LoggingOverrides.ofDocument? d v).map (·.apply standard) := by
  rw [ofDocument?, LoggingOverrides.ofDocument?, show LoggingOverrides.shape = shape from rfl]
  cases hfields : v.fields? d shape with
  | none => rfl
  | some r =>
    have hfree := Document.nullFree_of_fields? h hfields
    have hlevel := Document.optional?_eq_getD Document.text? standard.level hfree
      (show "level" ∈ shape.names by decide)
    have hformat := Document.optional?_eq_getD (Document.variant? d LogFormat.named?)
      standard.format hfree (show "format" ∈ shape.names by decide)
    simp only [Option.bind_some, ofFields?, hlevel, hformat, LoggingOverrides.ofFields?, bind, pure,
      Option.bind_map, Option.map_bind, Function.comp_def, Option.map_some]
    rfl

/-- **The two schemas agree.** A document without null has a configuration if it has overrides, and
the configuration is what these make of the standard one. -/
theorem Config.ofDocument?_eq_apply (h : ¬v.HasNull) :
    ofDocument? d v = (ConfigOverrides.ofDocument? d v).map (·.apply standard) := by
  rw [ofDocument?, ConfigOverrides.ofDocument?, show ConfigOverrides.shape = shape from rfl]
  cases hfields : v.fields? d shape with
  | none => rfl
  | some top =>
    have hfree := Document.nullFree_of_fields? h hfields
    have hversion := Document.optional?_eq_getD Document.word? standard.version hfree
      (show "version" ∈ shape.names by decide)
    have hmonitor : Document.optional? (MonitorSection.ofDocument? d) standard.toMonitorSection top
        "monitor" = (Document.optional? (MonitorOverrides.ofDocument? d) .empty top "monitor").map
          (·.apply .standard) :=
      Document.optional?_map (·.apply .standard) MonitorOverrides.empty fun w hw =>
        MonitorSection.ofDocument?_eq_apply (hfree "monitor" (by decide) w hw)
    have hrender : Document.optional? (RenderSection.ofDocument? d) standard.toRenderSection top
        "render" = (Document.optional? (RenderOverrides.ofDocument? d) .empty top "render").map
          (·.apply .standard) :=
      Document.optional?_map (·.apply .standard) RenderOverrides.empty fun w hw =>
        RenderSection.ofDocument?_eq_apply (hfree "render" (by decide) w hw)
    have hlogging : Document.optional? (LoggingSection.ofDocument? d) standard.toLoggingSection top
        "logging" = (Document.optional? (LoggingOverrides.ofDocument? d) .empty top "logging").map
          (·.apply .standard) :=
      Document.optional?_map (·.apply .standard) LoggingOverrides.empty fun w hw =>
        LoggingSection.ofDocument?_eq_apply (hfree "logging" (by decide) w hw)
    simp only [bind, pure, Option.bind_some, hversion, hmonitor, hrender, hlogging,
      Option.bind_map, Option.map_bind, Function.comp_def, Option.map_some]
    rfl

end Sections

/-! ### Loading -/

lemma ConfigSyntax.config?_eq_apply {t : String}
    (h : ∀ v, Json.document? t = some v → ¬v.HasNull) :
    json.config? t = (ConfigOverrides.ofText? t).map (·.apply .standard) := by
  rw [config?, ConfigOverrides.ofText?, document?]
  cases hdocument : Json.document? t with
  | none => rfl
  | some v => exact Config.ofDocument?_eq_apply (h v hdocument)

namespace ValidConfig

variable {t : String} {env : Settings}

lemma ofSources_config {c : Config} (h : ConfigSyntax.json.config? t = some c) :
    ofSources (some t) none env = merge c env := by
  rw [ofSources, Config.orStandard, Config.ofText, h]
  rfl

lemma ofSources_overrides {o : ConfigOverrides} (h : ConfigOverrides.ofText? t = some o) :
    ofSources none (some t) env = merge (o.apply .standard) env := by
  rw [ofSources, Config.orStandard]
  show finish .standard (some t) env = _
  rw [finish, Config.overridden, ConfigOverrides.ofText, h]
  rfl

/-- **A text is taken in the same way as a configuration and as overrides.** If no null stands in
it, either both loads succeed with the same valid configuration, or both fail: with the same error
of the validation, or, where the text has neither a configuration nor overrides, with errors that
differ in their messages and in the source that they name. -/
theorem ofSources_agree {t : String} (h : ∀ v, Json.document? t = some v → ¬v.HasNull)
    (env : Settings) :
    (∃ v, ofSources (some t) none env = .ok v ∧ ofSources none (some t) env = .ok v) ∨
      (∃ e : ConfigError, ofSources (some t) none env = .error e.envelope ∧
        ofSources none (some t) env = .error e.envelope) ∨
      ConfigSyntax.json.config? t = none ∧ ConfigOverrides.ofText? t = none ∧
        ∃ (e : Envelope) (message : String), ofSources (some t) none env = .error e ∧
          ofSources none (some t) env = .error { e with
            message := message
            details := e.details.insert "source" Source.overrides.word } := by
  have hconfig := ConfigSyntax.config?_eq_apply h
  cases hoverrides : ConfigOverrides.ofText? t with
  | none =>
    rw [hoverrides, Option.map_none] at hconfig
    refine Or.inr (Or.inr ⟨hconfig, rfl, (ConfigSyntax.json.malformed .config).noting "source"
      Source.config.word, (ConfigSyntax.json.malformed .overrides).message, ?_, ?_⟩)
    · rw [ofSources, Config.orStandard, Config.ofText, hconfig]
      rfl
    · rw [ofSources, Config.orStandard]
      show finish .standard (some t) env = _
      rw [finish, Config.overridden, ConfigOverrides.ofText, hoverrides]
      rfl
  | some o =>
    rw [hoverrides, Option.map_some] at hconfig
    rw [ofSources_config hconfig, ofSources_overrides hoverrides, merge]
    cases (env.apply (o.apply .standard)).validate with
    | ok v => exact Or.inl ⟨v, rfl, rfl⟩
    | error e => exact Or.inr (Or.inl ⟨e, rfl, rfl⟩)

/-- A text in the form of lists. -/
theorem ofSources_agree_list :
    (∀ v, Json.document? "[1,[true]]" = some v → ¬v.HasNull) ∧
      ∃ v, ofSources (some "[1,[true]]") none .none = .ok v ∧
        ofSources none (some "[1,[true]]") .none = .ok v := by
  have hdocument : Json.document? "[1,[true]]" = some (.list [.int 1, .list [.bool true]]) := rfl
  have hnull : ∀ v, Json.document? "[1,[true]]" = some v → ¬v.HasNull := by
    intro v hv
    rw [hdocument] at hv
    obtain rfl := Option.some.inj hv
    rintro (_ | ⟨hmem, h⟩ | _)
    simp only [List.mem_cons, List.not_mem_nil, or_false] at hmem
    rcases hmem with rfl | rfl
    · exact nomatch h
    · obtain _ | ⟨hmem, h⟩ | _ := h
      obtain rfl := List.mem_singleton.mp hmem
      exact nomatch h
  refine ⟨hnull, ?_⟩
  rcases ofSources_agree hnull .none with h | ⟨e, he, -⟩ | ⟨hnone, -⟩
  · exact h
  · have hok : (ofSources (some "[1,[true]]") none .none).toBool = true := rfl
    rw [he] at hok
    exact absurd hok nofun
  · have hsome : (ConfigSyntax.json.config? "[1,[true]]").isSome = true := rfl
    rw [hnone] at hsome
    exact absurd hsome nofun

end ValidConfig

end CallWatch
