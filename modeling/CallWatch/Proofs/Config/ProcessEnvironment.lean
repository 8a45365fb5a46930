import CallWatch.Proofs.Config.Variables

/-!
The environment of a process.

The values of its variables are bytes. Before anything is read, the known variables whose values
are texts are collected; a variable whose bytes are no text is left out, as if it were not set. So
an environment of texts is read just as its texts are. In any other one a variable may be set and
count for nothing: reading does not fail, and gives it no value.
-/

namespace CallWatch

lemma Text.fromUTF8?_eq_some_iff {bytes : ByteArray} {s : String} :
    String.fromUTF8? bytes = some s ↔ bytes = s.toUTF8 := by
  constructor
  · intro h
    obtain ⟨_, hs⟩ := Option.dite_none_right_eq_some.mp h
    rw [← Option.some.inj hs]
    rfl
  · rintro rfl
    exact fromUTF8?_toUTF8 s

namespace Environment

/-- The environment with these texts as its values. -/
def ofTexts (texts : String → Option String) : Environment :=
  fun name => (texts name).map String.toUTF8

/-- The known variables whose values are texts, in their order. -/
def collected (env : Environment) : List (String × String) :=
  Variable.all.filterMap fun v => (env.text? v.name).map (v.name, ·)

/-- The variable is set to bytes that are no text. -/
def Garbles (env : Environment) (v : Variable) : Prop :=
  ∃ bytes, env v.name = some bytes ∧ ¬bytes.IsValidUTF8

/-- The variable is set to a text that holds no value. -/
def Misstates (env : Environment) (v : Variable) : Prop :=
  ∃ raw : String, env v.name = some raw.toUTF8 ∧ ∀ a, ¬v.Holds raw a

/-- No variable that is set is passed over: reading fails, or it gives values to exactly the
variables that are set. -/
def Heeded (env : Environment) : Prop :=
  (∃ e, Settings.ofEnvironment env = .error e) ∨
    ∃ s, Settings.ofEnvironment env = .ok s ∧
      ∀ v : Variable, (s.get v.field).isSome ↔ (env v.name).isSome

/-- What is read of the environment of a process. -/
structure ReadByTexts (env : Environment) : Prop where
  /-- What was collected is read, and nothing else. -/
  collects : Settings.ofEnvironment env = Settings.ofVariables fun name => env.collected.lookup name
  loads : ∀ (files : Files) (path overrides : Option String),
    ValidConfig.load env files path overrides =
      withVariables (fun name => env.collected.lookup name)
        (ValidConfig.ofPath files path overrides)
  /-- If all values are texts, these are read. -/
  texts : (∀ name bytes, env name = some bytes → bytes.IsValidUTF8) →
    ∃ texts, env = ofTexts texts ∧ Settings.ofEnvironment env = Settings.ofVariables texts
  fails_iff : (∃ e, Settings.ofEnvironment env = .error e) ↔ ∃ v, env.Misstates v
  gives_iff : ∀ s, Settings.ofEnvironment env = .ok s → ∀ v : Variable,
    (s.get v.field).isSome ↔ (env v.name).isSome ∧ ¬env.Garbles v
  heeded_iff : env.Heeded ↔ (∃ v, env.Misstates v) ∨ ∀ v, ¬env.Garbles v

/-! ### Texts among bytes -/

variable {env : Environment} {name s : String} {v : Variable}

lemma text?_eq_some_iff : env.text? name = some s ↔ env name = some s.toUTF8 := by
  rw [text?, Option.bind_eq_some_iff]
  constructor
  · rintro ⟨bytes, hbytes, hs⟩
    rw [hbytes, Text.fromUTF8?_eq_some_iff.mp hs]
  · exact fun h => ⟨_, h, Text.fromUTF8?_eq_some_iff.mpr rfl⟩

lemma isSome_text?_iff :
    (env.text? v.name).isSome ↔ (env v.name).isSome ∧ ¬env.Garbles v := by
  rw [text?, Garbles]
  cases env v.name with
  | none => simp
  | some bytes => simp [String.fromUTF8?]

lemma eq_ofTexts (h : ∀ name bytes, env name = some bytes → bytes.IsValidUTF8) :
    env = ofTexts env.text? := by
  funext name
  cases hbytes : env name with
  | none =>
    rw [ofTexts, text?, hbytes]
    rfl
  | some bytes =>
    have htext : env.text? name = some (String.fromUTF8 bytes (h name bytes hbytes)) :=
      text?_eq_some_iff.mpr hbytes
    rw [ofTexts, htext]
    rfl

/-! ### Collecting -/

lemma lookup_filterMap_names (text : Variable → Option String) (vs : List Variable)
    (v : Variable) :
    (vs.filterMap fun w => (text w).map (w.name, ·)).lookup v.name =
      if v ∈ vs then text v else none := by
  induction vs with
  | nil => rfl
  | cons w vs ih =>
    rw [List.filterMap_cons]
    by_cases hv : w = v
    · subst hv
      rw [if_pos List.mem_cons_self]
      cases htext : text w with
      | none =>
        rw [Option.map_none]
        dsimp only
        rw [ih, htext, ite_self]
      | some s => rw [Option.map_some, List.lookup_cons_self]
    · have hmem : v ∈ w :: vs ↔ v ∈ vs := by simp [Ne.symm hv]
      have hname : (v.name == w.name) = false :=
        beq_false_of_ne (Variable.name_injective.ne (Ne.symm hv))
      cases text w with
      | none => simp only [Option.map_none, ih, hmem]
      | some s => simp only [Option.map_some, List.lookup_cons, hname, ih, hmem]

lemma lookup_collected (v : Variable) : env.collected.lookup v.name = env.text? v.name := by
  have hall : v ∈ Variable.all := by cases v <;> decide
  rw [collected, lookup_filterMap_names fun w => env.text? w.name, if_pos hall]

lemma ofEnvironment_eq (env : Environment) : Settings.ofEnvironment env =
    Settings.ofVariables fun name => env.collected.lookup name :=
  (Settings.ofVariables_congr lookup_collected).symm

/-! ### What is read -/

lemma fine_text?_iff : v.Fine env.text? ↔ ¬env.Misstates v := by
  simp only [Variable.Fine, Misstates, text?_eq_some_iff, not_exists, not_and, not_forall, not_not]

lemma exists_error_iff :
    (∃ e, Settings.ofEnvironment env = .error e) ↔ ∃ v, env.Misstates v := by
  have hfails : (∃ e, Settings.ofEnvironment env = .error e) ↔
      ¬∃ s, Settings.ofEnvironment env = .ok s := by
    cases Settings.ofEnvironment env <;> simp
  rw [hfails, Settings.ofEnvironment, Settings.exists_ofVariables_iff]
  simp only [fine_text?_iff, not_forall, not_not]

lemma isSome_get_iff {s : Settings} (h : Settings.ofEnvironment env = .ok s) :
    (s.get v.field).isSome ↔ (env v.name).isSome ∧ ¬env.Garbles v :=
  (Variable.eq_some_iff_of_value? (Settings.value?_of_ofVariables h v)).2.trans isSome_text?_iff

lemma heeded_iff : env.Heeded ↔ (∃ v, env.Misstates v) ∨ ∀ v, ¬env.Garbles v := by
  rw [Heeded, exists_error_iff]
  refine or_congr_right' fun hfine => ?_
  obtain ⟨s, hs⟩ : ∃ s, Settings.ofEnvironment env = .ok s := by
    cases hread : Settings.ofEnvironment env with
    | ok s => exact ⟨s, rfl⟩
    | error e => exact absurd (exists_error_iff.mp ⟨e, hread⟩) hfine
  simp only [hs, Except.ok.injEq, exists_eq_left', isSome_get_iff hs, and_iff_left_iff_imp]
  -- where nothing fails, the values are those of the texts, and garbled variables are set as well
  refine forall_congr' fun v => ⟨fun h hg => ?_, fun h _ => h⟩
  obtain ⟨bytes, hbytes, -⟩ := id hg
  exact h (Option.isSome_iff_exists.mpr ⟨bytes, hbytes⟩) hg

/-- **The environment of a process is read by its texts.** The known variables whose values are
texts are read strictly, and the others count as not set. So no variable that is set is passed over
if the values of all known variables are texts, or if one of them is a text that is refused anyway;
and only then. -/
theorem readByTexts (env : Environment) : env.ReadByTexts where
  collects := ofEnvironment_eq env
  loads files path overrides := by
    rw [ValidConfig.load, ofEnvironment_eq]
    rfl
  texts h := ⟨env.text?, eq_ofTexts h, rfl⟩
  fails_iff := exists_error_iff
  gives_iff _ hs _ := isSome_get_iff hs
  heeded_iff := heeded_iff

/-- The level is named, but a byte that is no text follows it. -/
def strayByte : Environment := fun name =>
  if name = Variable.level.name then some ⟨#[0x64, 0x65, 0x62, 0x75, 0x67, 0xff]⟩ else none

/-- A level that is set is passed over: nothing fails, and nothing has a value. -/
theorem strayByte_not_heeded : (strayByte Variable.level.name).isSome = true ∧
    Settings.ofEnvironment strayByte = .ok .none ∧ ¬strayByte.Heeded := by
  have hread : Settings.ofEnvironment strayByte = .ok .none := by decide
  refine ⟨by decide, hread, ?_⟩
  rintro (⟨e, he⟩ | ⟨s, hs, hgives⟩)
  · exact absurd (hread.symm.trans he) nofun
  · obtain rfl := Except.ok.inj (hread.symm.trans hs)
    exact absurd ((hgives .level).mpr (by decide)) nofun

end Environment

end CallWatch
