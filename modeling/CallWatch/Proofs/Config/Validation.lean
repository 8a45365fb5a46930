import CallWatch.Config.Watch
import CallWatch.Proofs.Config.Precedence
import CallWatch.Proofs.Program.SingleMonitor

/-!
What is validated can be used.

A configuration has five requirements to meet, one after the other, and the first that it does not
meet is the error. The bounds of the limits lie within the sizes of every machine and above zero, so
no later check of a limit can fail: whichever way a valid configuration was obtained, its monitor is
built, and has the limits that the configuration says.
-/

namespace CallWatch

open CallWatch.Text

/-! ### Requirements -/

inductive Config.Requirement where
  | version
  | limit (l : RenderLimit)
  | level

namespace Config.Requirement

/-- All requirements, in the order in which they are checked. -/
def all : List Requirement :=
  [.version, .limit .maxValueChars, .limit .maxArrayItems, .limit .maxDepth, .level]

def levels : List String := ["trace", "debug", "info", "warn", "error"]

/-- A configuration meets a requirement. -/
def Met (c : Config) : Requirement → Prop
  | version => c.version = 1
  | limit .maxValueChars => 1 ≤ c.maxValueChars.toNat ∧ c.maxValueChars.toNat ≤ 65536
  | limit .maxArrayItems => 1 ≤ c.maxArrayItems.toNat ∧ c.maxArrayItems.toNat ≤ 10000
  | limit .maxDepth => 1 ≤ c.maxDepth.toNat ∧ c.maxDepth.toNat ≤ 64
  | level => lower (trim c.level) ∈ levels

instance (c : Config) : (k : Requirement) → Decidable (k.Met c)
  | version => inferInstanceAs (Decidable (_ = _))
  | limit .maxValueChars | limit .maxArrayItems | limit .maxDepth =>
    inferInstanceAs (Decidable (_ ∧ _))
  | level => inferInstanceAs (Decidable (_ ∈ levels))

/-- The error of a configuration that does not meet a requirement, with the value that it has
there. -/
def error (c : Config) : Requirement → ConfigError
  | version => .unsupportedVersion c.version
  | limit l => .limitOutOfRange l (c.limit l)
  | level => .unknownLevel c.level

end Config.Requirement

open Config (Requirement)

/-- The requirement is the first that the configuration does not meet. -/
def Config.FirstUnmet (c : Config) (k : Requirement) : Prop :=
  ∃ earlier later, Requirement.all = earlier ++ k :: later ∧ (∀ j ∈ earlier, j.Met c) ∧ ¬k.Met c

/-- Validation is exact. -/
structure Config.Validated (c : Config) : Prop where
  /-- The configurations that meet all requirements are accepted, and no other. -/
  accepts_iff : (∃ v, c.validate = .ok v) ↔ ∀ k : Requirement, k.Met c
  /-- The error is that of the first requirement which is not met. -/
  refuses_iff : ∀ e, c.validate = .error e ↔ ∃ k, c.FirstUnmet k ∧ e = k.error c
  /-- Only the spelling of the level changes. -/
  changes_level : ∀ v, c.validate = .ok v → v.config = { c with level := lower (trim c.level) }

/-- The ways to a valid configuration. -/
inductive ValidConfig.Obtained (v : ValidConfig) : Prop where
  | validated (c : Config) (h : c.validate = .ok v)
  /-- The settings of an environment come over a configuration that need not be valid. -/
  | overridden (c : Config) (env : Settings) (h : merge c env = .ok v)
  | parsed (form : ConfigSyntax) (text : String) (h : ValidConfig.parse form text = .ok v)
  | loaded (r : LoadRequest) (h : r.run = .ok v)
  | standard (h : v = .standard)

/-- The limits of a rendering are those that a configuration says. -/
structure RenderOptions.AsIn (o : RenderOptions) (c : Config) : Prop where
  chars : o.maxValueChars = c.maxValueChars.toNat
  items : o.maxArrayItems = c.maxArrayItems.toNat
  depth : o.maxDepth = c.maxDepth.toNat

/-- A configuration can be used as it is. -/
structure ValidConfig.Usable (v : ValidConfig) : Prop where
  meets : ∀ k : Requirement, k.Met v.config
  canonical : v.config.level ∈ Requirement.levels
  /-- Validating it again gives the same. -/
  again : v.config.validate = .ok v
  /-- Its monitor is built. -/
  builds : ∃ o : RenderOptions, o.AsIn v.config ∧ v.watch = .ok (.init (.html o))
  /-- A program without a monitor takes it. -/
  installs : ∀ (p : Program) (now : Instant), p.installed = none →
    (p.install v now).1 = .ok p.built ∧ ∃ (o : RenderOptions) (w : Watch), o.AsIn v.config ∧
      (p.install v now).2.installed = some ⟨p.built, w⟩ ∧ w.renderer = .html o

/-! ### Levels -/

namespace LogLevel

lemma named?_eq_some_iff {s : String} {l : LogLevel} : named? s = some l ↔ s = l.text := by
  constructor
  · intro h
    have hfound := List.find?_some h
    exact (beq_iff_eq.mp hfound).symm
  · rintro rfl
    cases l <;> rfl

lemma exists_text_iff {s : String} : (∃ l : LogLevel, s = l.text) ↔ s ∈ Requirement.levels := by
  have hlevels : Requirement.levels = all.map text := rfl
  have hall (l : LogLevel) : l ∈ all := by cases l <;> decide
  rw [hlevels, List.mem_map]
  constructor
  · rintro ⟨l, rfl⟩
    exact ⟨l, hall l, rfl⟩
  · rintro ⟨l, -, rfl⟩
    exact ⟨l, rfl⟩

end LogLevel

/-! ### Validation -/

namespace Config

variable {c : Config} {k : Requirement} {v : ValidConfig}

lemma levelOf?_eq_some_iff {l : LogLevel} : levelOf? c.level = some l ↔
    lower (trim c.level) = l.text := LogLevel.named?_eq_some_iff

lemma met_limit_iff {l : RenderLimit} : (Requirement.limit l).Met c ↔ c.Within l := by
  cases l <;> rfl

lemma met_level_iff : Requirement.level.Met c ↔ ∃ l, levelOf? c.level = some l := by
  simp only [levelOf?_eq_some_iff]
  exact LogLevel.exists_text_iff.symm

/-- The other requirements do not look at the level. -/
lemma met_setLevel_iff {s : String} (h : k ≠ .level) : k.Met { c with level := s } ↔ k.Met c := by
  cases k with
  | version => rfl
  | limit l => cases l <;> rfl
  | level => exact absurd rfl h

/-- What validation does, requirement after requirement. -/
inductive Outcome (c : Config) : Except ConfigError ValidConfig → Prop where
  | refused {k : Requirement} (h : c.FirstUnmet k) : Outcome c (.error (k.error c))
  | accepted {v : ValidConfig} (h : ∀ k : Requirement, k.Met c)
    (hsame : v.config = { c with level := lower (trim c.level) }) : Outcome c (.ok v)

/-- The first limit that is out of its range comes after the version and the limits before it. -/
lemma firstUnmet_of_firstOutside? {l : RenderLimit} (hversion : Requirement.version.Met c)
    (h : c.firstOutside? = some l) : c.FirstUnmet (.limit l) := by
  obtain ⟨hl, earlier, later, hall, hearlier⟩ := List.find?_eq_some_iff_append.mp h
  refine ⟨.version :: earlier.map .limit, later.map .limit ++ [.level], ?_, ?_, ?_⟩
  · calc Requirement.all
      _ = .version :: (RenderLimit.all.map .limit ++ [.level]) := rfl
      _ = _ := by rw [hall]; simp
  · intro j hj
    rcases List.mem_cons.mp hj with rfl | hj
    · exact hversion
    · obtain ⟨l', hl', rfl⟩ := List.mem_map.mp hj
      exact met_limit_iff.mpr (by simpa using hearlier l' hl')
  · exact fun hmet => absurd (met_limit_iff.mp hmet) (by simpa using hl)

lemma outcome_validate (c : Config) : Outcome c c.validate := by
  unfold validate
  split
  case isFalse hversion =>
    have hnone : ∀ j ∈ ([] : List Requirement), j.Met c := fun _ hj => absurd hj List.not_mem_nil
    exact .refused (k := .version) ⟨[], _, rfl, hnone, hversion⟩
  case isTrue hversion =>
    split
    case h_1 l houtside => exact .refused (firstUnmet_of_firstOutside? hversion houtside)
    case h_2 houtside =>
      have hlimit (l : RenderLimit) : (Requirement.limit l).Met c :=
        met_limit_iff.mpr (within_of_firstOutside? houtside l)
      split
      case h_1 hlevel =>
        refine .refused (k := .level) ⟨Requirement.all.dropLast, [], rfl, ?_, ?_⟩
        · intro j hj
          cases j with
          | version => exact hversion
          | limit l => exact hlimit l
          | level => simp [Requirement.all] at hj
        · rw [met_level_iff, hlevel]
          rintro ⟨_, hl⟩
          cases hl
      case h_2 l hlevel =>
        refine .accepted (fun k => ?_) ?_
        · cases k with
          | version => exact hversion
          | limit l => exact hlimit l
          | level => exact met_level_iff.mpr ⟨l, hlevel⟩
        · rw [levelOf?_eq_some_iff.mp hlevel]

/-- There is one first requirement that is not met. -/
lemma FirstUnmet.eq {j k : Requirement} (hj : c.FirstUnmet j) (hk : c.FirstUnmet k) : j = k := by
  have hfind {k : Requirement} (h : c.FirstUnmet k) :
      Requirement.all.find? (fun k => !decide (k.Met c)) = some k := by
    obtain ⟨earlier, later, hall, hearlier, hunmet⟩ := h
    exact List.find?_eq_some_iff_append.mpr
      ⟨by simpa using hunmet, earlier, later, hall, fun j hj => by simpa using hearlier j hj⟩
  exact Option.some.inj ((hfind hj).symm.trans (hfind hk))

lemma validated (c : Config) : c.Validated := by
  have houtcome := c.outcome_validate
  generalize hresult : c.validate = result at houtcome
  cases houtcome with
  | @refused k h =>
    refine ⟨?_, ?_, ?_⟩
    · obtain ⟨_, _, _, _, hunmet⟩ := h
      constructor
      · rintro ⟨v, hv⟩
        rw [hresult] at hv
        exact absurd hv nofun
      · exact fun hall => absurd (hall k) hunmet
    · intro e
      rw [hresult]
      constructor
      · intro he
        exact ⟨k, h, (Except.error.inj he).symm⟩
      · rintro ⟨j, hj, rfl⟩
        rw [h.eq hj]
    · intro v hv
      rw [hresult] at hv
      exact absurd hv nofun
  | @accepted v h hsame =>
    refine ⟨?_, ?_, ?_⟩
    · exact ⟨fun _ => h, fun _ => ⟨v, hresult⟩⟩
    · intro e
      rw [hresult]
      constructor
      · exact nofun
      · rintro ⟨j, ⟨_, _, _, _, hunmet⟩, -⟩
        exact absurd (h j) hunmet
    · intro v' hv'
      rw [hresult] at hv'
      rw [← Except.ok.inj hv', hsame]

end Config

/-! ### Use -/

lemma Except.of_mapError_eq_ok {ε ε' α : Type} {x : Except ε α} {f : ε → ε'} {a : α}
    (h : x.mapError f = .ok a) : x = .ok a := by
  cases x with
  | error e => exact absurd h nofun
  | ok b => exact congrArg Except.ok (Except.ok.inj h)

/-- A word of 32 bits is a size of every machine. -/
lemma RenderLimit.size_eq (l : RenderLimit) (value : UInt32) : l.size value = .ok value.toNat := by
  have hvalue := value.toNat_lt
  have hsize := USize.le_size
  rw [size, if_pos (by omega)]

lemma RenderOptions.ofLimits_of_pos {chars items depth : Nat} (hchars : 0 < chars)
    (hitems : 0 < items) (hdepth : 0 < depth) :
    ofLimits chars items depth = .ok ⟨chars, items, depth, hchars, hitems, hdepth⟩ := by
  rw [ofLimits, dif_neg hchars.ne', dif_neg hitems.ne', dif_neg hdepth.ne']

namespace ValidConfig

variable {v : ValidConfig}

/-- Every way to a valid configuration is one through validation. -/
lemma Obtained.exists_validate_eq (h : v.Obtained) : ∃ c : Config, c.validate = .ok v := by
  cases h with
  | validated c h => exact ⟨c, h⟩
  | overridden c env h => exact ⟨_, Except.of_mapError_eq_ok h⟩
  | parsed form text h =>
    rw [parse] at h
    split at h
    · exact ⟨_, Except.of_mapError_eq_ok h⟩
    · cases h
  | loaded r h =>
    rw [LoadRequest.run_eq_early] at h
    split at h
    · cases h
    · exact ⟨_, Except.of_mapError_eq_ok h⟩
  | standard h =>
    subst h
    exact ⟨_, Config.validate_config ValidConfig.standard⟩

lemma meets_of_validate {c : Config} (h : c.validate = .ok v) (k : Requirement) :
    k.Met v.config := by
  have hmet := c.validated.accepts_iff.mp ⟨v, h⟩
  rw [c.validated.changes_level v h]
  by_cases hk : k = .level
  · subst hk
    obtain ⟨l, hl⟩ := LogLevel.exists_text_iff.mpr (hmet .level)
    exact Config.met_level_iff.mpr ⟨l, by rw [hl, Config.levelOf?_text]⟩
  · exact (Config.met_setLevel_iff hk).mpr (hmet k)

lemma canonical_of_validate {c : Config} (h : c.validate = .ok v) :
    v.config.level ∈ Requirement.levels := by
  rw [c.validated.changes_level v h]
  exact c.validated.accepts_iff.mp ⟨v, h⟩ .level

/-- The limits of a configuration that meets its requirements are limits of a rendering. -/
lemma watch_eq (h : ∀ k : Requirement, k.Met v.config) :
    v.watch = .ok (.init (.html v.renderOptions)) := by
  have hoptions : v.config.renderOptions = .ok v.renderOptions := by
    have hlimits := RenderOptions.ofLimits_of_pos (h (.limit .maxValueChars)).1
      (h (.limit .maxArrayItems)).1 (h (.limit .maxDepth)).1
    simp only [Config.renderOptions, RenderLimit.size_eq, bind, Except.bind]
    rw [hlimits]
    rfl
  rw [watch, hoptions]
  rfl

lemma usable_of_validate {c : Config} (h : c.validate = .ok v) : v.Usable where
  meets := meets_of_validate h
  canonical := canonical_of_validate h
  again := Config.validate_config v
  builds := ⟨v.renderOptions, ⟨rfl, rfl, rfl⟩, watch_eq (meets_of_validate h)⟩
  installs := by
    intro p now hnone
    obtain ⟨hnumber, w, hinstalled, hrenderer, -⟩ := Program.install_of_none v now hnone
    exact ⟨hnumber, v.renderOptions, w, ⟨rfl, rfl, rfl⟩, hinstalled, hrenderer⟩

end ValidConfig

/-- **What is validated can be used.** A configuration is accepted if it meets all requirements,
and else refused for the first that it does not meet. Whichever way a valid configuration was
obtained, it meets them, is validated to itself, and has a monitor within its limits. -/
theorem validated_usable :
    (∀ c : Config, c.Validated) ∧ ∀ v : ValidConfig, v.Obtained → v.Usable := by
  refine ⟨Config.validated, fun v hv => ?_⟩
  obtain ⟨c, hc⟩ := hv.exists_validate_eq
  exact ValidConfig.usable_of_validate hc

/-- A configuration whose level is not in its canonical spelling, at two bounds of its limits. -/
def Config.shouting : Config :=
  { Config.standard with level := " WARN\t", maxValueChars := 65536, maxDepth := 1 }

theorem validated_usable_shouting : ∃ v, Config.shouting.validate = .ok v ∧
    v.config = { Config.shouting with level := "warn" } ∧ v.Usable := by
  have hmet (k : Requirement) : k.Met Config.shouting := by
    cases k with
    | version => decide
    | limit l => cases l <;> decide
    | level => decide +kernel
  obtain ⟨v, hv⟩ := (validated_usable.1 Config.shouting).accepts_iff.mpr hmet
  have hsame : v.config = _ := (validated_usable.1 Config.shouting).changes_level v hv
  exact ⟨v, hv, hsame, validated_usable.2 v (.validated _ hv)⟩

end CallWatch
