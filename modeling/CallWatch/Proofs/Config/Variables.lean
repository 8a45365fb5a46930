import CallWatch.Proofs.Config.Validation
import CallWatch.Proofs.Text.Trimming
import Mathlib.Data.List.Forall2
import Mathlib.Logic.Function.Basic

/-!
What environment variables hold.

Each variable has a language of its own: words in capital or small letters, or decimal numerals. A
text holds a value if it writes the value without the blanks around it. Every variable that is set
has to hold one, and the first that does not is the error. The level of the log may be written
in the environment or in a configuration text: both places take the same texts for the same levels.
-/

namespace CallWatch

open CallWatch.Text
open Config (Requirement)

/-! ### Words and numerals -/

namespace Text

/-- The characters are the same, or the second is a small letter of ASCII and the first its
capital. -/
def Spells (c d : Char) : Prop := c = d ∨ 'a' ≤ d ∧ d ≤ 'z' ∧ c.toNat + 32 = d.toNat

/-- The text is the word, with some of its letters perhaps as capitals. -/
def Spelled (cs : List Char) (w : String) : Prop := List.Forall₂ Spells cs w.toList

/-- Decimal digits, perhaps after a plus sign, that write a number of 32 bits. -/
def Writes (cs : List Char) (n : UInt32) : Prop :=
  ∃ ds, (cs = ds ∨ cs = '+' :: ds) ∧ ds ≠ [] ∧ (∀ d ∈ ds, d.isDigit = true) ∧
    Numeral.value ds = n.toNat

lemma toNat_toLower (c : Char) :
    c.toLower.toNat = if 65 ≤ c.toNat ∧ c.toNat ≤ 90 then c.toNat + 32 else c.toNat := by
  split
  · next h =>
    have hupper : c.val ≥ 'A'.val ∧ c.val ≤ 'Z'.val := h
    have hlower : c.toLower.val = c.val + 32 := congrArg Char.val (dif_pos hupper)
    have hnat : c.toLower.toNat = (c.val + 32).toNat := congrArg UInt32.toNat hlower
    have hval : c.val.toNat = c.toNat := rfl
    have hdistance : (32 : UInt32).toNat = 32 := rfl
    rw [hnat, UInt32.toNat_add]
    omega
  · next h =>
    have hupper : ¬(c.val ≥ 'A'.val ∧ c.val ≤ 'Z'.val) := h
    have hlower : c.toLower = c := dif_neg hupper
    rw [hlower]

/-- No capital stands in the word. -/
def NoCapital (w : String) : Prop := ∀ d ∈ w.toList, ¬(65 ≤ d.toNat ∧ d.toNat ≤ 90)

instance (w : String) : Decidable (NoCapital w) := List.decidableBAll _ _

lemma toLower_eq_iff {c d : Char} (hd : ¬(65 ≤ d.toNat ∧ d.toNat ≤ 90)) :
    c.toLower = d ↔ Spells c d := by
  have hsmall : 'a' ≤ d ∧ d ≤ 'z' ↔ 97 ≤ d.toNat ∧ d.toNat ≤ 122 := Iff.rfl
  rw [Spells, ← and_assoc, hsmall, ← Char.toNat_inj, toNat_toLower, ← Char.toNat_inj]
  split <;> omega

lemma lower_eq_iff {s w : String} (hw : NoCapital w) : lower s = w ↔ Spelled s.toList w := by
  have hpointwise (cs ds : List Char) (hds : ∀ d ∈ ds, ¬(65 ≤ d.toNat ∧ d.toNat ≤ 90)) :
      cs.map Char.toLower = ds ↔ List.Forall₂ Spells cs ds := by
    induction cs generalizing ds with
    | nil => cases ds <;> simp
    | cons c cs ih =>
      cases ds with
      | nil => simp
      | cons d ds =>
        obtain ⟨hd, hds⟩ := List.forall_mem_cons.mp hds
        rw [List.map_cons, List.cons.injEq, List.forall₂_cons, toLower_eq_iff hd, ih ds hds]
  rw [Spelled, ← hpointwise _ _ hw, lower, ← String.toList_inj, String.toList_ofList]

lemma dropPlus_of_digit {d : Char} (h : d.isDigit = true) (ds : List Char) :
    Numeral.dropPlus (d :: ds) = d :: ds := by
  rw [Numeral.dropPlus]
  intro cs hcs
  obtain ⟨rfl, -⟩ := List.cons.inj hcs
  exact absurd h (by decide)

lemma dropPlus_cases (cs : List Char) :
    cs = Numeral.dropPlus cs ∨ cs = '+' :: Numeral.dropPlus cs := by
  unfold Numeral.dropPlus
  split
  · exact .inr rfl
  · exact .inl rfl

lemma natural?_eq_some_iff {cs : List Char} {n : Nat} : Numeral.natural? cs = some n ↔
    ∃ ds, (cs = ds ∨ cs = '+' :: ds) ∧ ds ≠ [] ∧ (∀ d ∈ ds, d.isDigit = true) ∧
      Numeral.value ds = n := by
  rw [Numeral.natural?]
  simp only [Option.ite_none_right_eq_some, List.all_eq_true, Option.some.injEq, and_assoc]
  constructor
  · exact fun h => ⟨Numeral.dropPlus cs, dropPlus_cases cs, h⟩
  · rintro ⟨ds, rfl | rfl, hne, hdigits, hvalue⟩
    · obtain _ | ⟨d, ds⟩ := cs
      · exact absurd rfl hne
      · rw [dropPlus_of_digit (hdigits d List.mem_cons_self)]
        exact ⟨hne, hdigits, hvalue⟩
    · exact ⟨hne, hdigits, hvalue⟩

end Text

/-! ### Values of variables -/

namespace Variable

/-- The field that a variable sets. -/
def field : Variable → ConfigField
  | autoStart => .autoStart
  | maxValueChars => .maxValueChars
  | maxArrayItems => .maxArrayItems
  | maxDepth => .maxDepth
  | level => .level
  | format => .format

/-- The words for on and off. -/
def switchWords : Bool → List String
  | true => ["true", "1", "yes", "on"]
  | false => ["false", "0", "no", "off"]

/-- A text without blanks around it writes a value of a variable. -/
def Means (cs : List Char) : (v : Variable) → v.field.Value → Prop
  | autoStart, (b : Bool) => ∃ w ∈ switchWords b, Spelled cs w
  | maxValueChars, (n : UInt32) => Writes cs n
  | maxArrayItems, (n : UInt32) => Writes cs n
  | maxDepth, (n : UInt32) => Writes cs n
  | level, (l : String) => l ∈ Requirement.levels ∧ Spelled cs l
  | format, (f : LogFormat) => Spelled cs f.word

/-- A text writes a value, with or without blanks around it. -/
def Holds (v : Variable) (raw : String) (a : v.field.Value) : Prop :=
  ∃ cs, Trimmed raw.toList cs ∧ v.Means cs a

/-- The error for a text that is not empty and holds no value, by the kind of its variable. -/
def refusal : Variable → Variable → String → VariableError
  | autoStart => .notBool
  | maxValueChars | maxArrayItems | maxDepth => .notNumber
  | level | format => .notChoice

/-- The error of a text that holds no value: there is nothing but blanks, or it tells the text as
it is, with the blanks around it. -/
inductive Complains (v : Variable) (raw : String) : VariableError → Prop
  | empty (h : Trimmed raw.toList []) : Complains v raw (.empty v)
  | refused (h : ¬Trimmed raw.toList []) : Complains v raw (v.refusal v raw)

variable (lookup : String → Option String)

/-- The variable is not set, or its text holds a value. -/
def Fine (v : Variable) : Prop := ∀ raw, lookup v.name = some raw → ∃ a, v.Holds raw a

/-- The variable is the first, in the order of their declaration, whose text holds no value. -/
def FirstBad (v : Variable) (raw : String) : Prop :=
  lookup v.name = some raw ∧ (∀ a, ¬v.Holds raw a) ∧
    ∃ earlier later, all = earlier ++ v :: later ∧ ∀ u ∈ earlier, u.Fine lookup

end Variable

/-- Reading the settings of an environment is exact. -/
structure Settings.ReadStrictly (lookup : String → Option String) : Prop where
  /-- Nothing but the six variables counts. -/
  known : ∀ lookup', (∀ v : Variable, lookup' v.name = lookup v.name) →
    ofVariables lookup' = ofVariables lookup
  accepts_iff : (∃ s, ofVariables lookup = .ok s) ↔ ∀ v : Variable, v.Fine lookup
  /-- A field has the value that its variable holds, and no value where that is not set. -/
  gives : ∀ s, ofVariables lookup = .ok s → ∀ v : Variable,
    (∀ a, s.get v.field = some a ↔ ∃ raw, lookup v.name = some raw ∧ v.Holds raw a) ∧
      ((s.get v.field).isSome ↔ (lookup v.name).isSome)
  isEmpty_iff : ∀ s, ofVariables lookup = .ok s →
    (s.isEmpty = true ↔ ∀ v : Variable, lookup v.name = Option.none)
  /-- The error is that of the first variable whose text holds no value. -/
  refuses_iff : ∀ e, ofVariables lookup = .error e ↔
    ∃ (v : Variable) (raw : String), v.FirstBad lookup raw ∧ v.Complains raw e

/-! ### Reading one variable -/

namespace Variable

def read? : (v : Variable) → String → Option v.field.Value
  | autoStart => bool?
  | maxValueChars => word?
  | maxArrayItems => word?
  | maxDepth => word?
  | level => level?
  | format => LogFormat.parse?

lemma bool?_eq_some_iff {s : String} {b : Bool} :
    bool? s = some b ↔ ∃ w ∈ switchWords b, Spelled s.toList w := by
  have hsmall (b : Bool) : ∀ w ∈ switchWords b, NoCapital w := by cases b <;> decide
  have hwords : (∃ w ∈ switchWords b, Spelled s.toList w) ↔ lower s ∈ switchWords b := by
    constructor
    · rintro ⟨w, hw, hs⟩
      rwa [(lower_eq_iff (hsmall b w hw)).mpr hs]
    · exact fun h => ⟨_, h, (lower_eq_iff (hsmall b _ h)).mp rfl⟩
  have hapart : ∀ w ∈ switchWords true, w ∉ switchWords false := by decide
  have hlisted (b : Bool) : (switchWords b).contains (lower s) = true ↔ lower s ∈ switchWords b :=
    List.contains_iff_mem
  rw [hwords, bool?]
  split
  · next htrue =>
    have htrue := (hlisted true).mp htrue
    cases b <;> simp [htrue, hapart _ htrue]
  · next htrue =>
    have htrue := mt (hlisted true).mpr htrue
    split
    · next hfalse =>
      have hfalse := (hlisted false).mp hfalse
      cases b <;> simp [htrue, hfalse]
    · next hfalse =>
      have hfalse := mt (hlisted false).mpr hfalse
      cases b <;> simp [htrue, hfalse]

lemma word?_eq_some_iff {s : String} {n : UInt32} : word? s = some n ↔ Writes s.toList n := by
  rw [Writes, ← natural?_eq_some_iff, word?, Option.bind_eq_some_iff]
  constructor
  · rintro ⟨m, hm, hn⟩
    obtain ⟨hlt, hn⟩ := Option.ite_none_right_eq_some.mp hn
    rw [hm, ← Option.some.inj hn, UInt32.toNat_ofNat_of_lt' hlt]
  · exact fun h => ⟨n.toNat, h, by rw [if_pos n.toNat_lt, UInt32.ofNat_toNat]⟩

lemma level?_eq_some_iff {s l : String} :
    level? s = some l ↔ l ∈ Requirement.levels ∧ Spelled s.toList l := by
  have hsmall : ∀ w ∈ Requirement.levels, NoCapital w := by decide
  rw [level?, Option.map_eq_some_iff]
  constructor
  · rintro ⟨k, hk, rfl⟩
    have hlevel := LogLevel.exists_text_iff.mp ⟨k, rfl⟩
    exact ⟨hlevel, (lower_eq_iff (hsmall _ hlevel)).mp (LogLevel.named?_eq_some_iff.mp hk)⟩
  · rintro ⟨hlevel, hs⟩
    obtain ⟨k, rfl⟩ := LogLevel.exists_text_iff.mpr hlevel
    exact ⟨k, LogLevel.named?_eq_some_iff.mpr ((lower_eq_iff (hsmall _ hlevel)).mpr hs), rfl⟩

lemma parse?_eq_some_iff {s : String} (hs : trim s = s) {f : LogFormat} :
    LogFormat.parse? s = some f ↔ Spelled s.toList f.word := by
  have hsmall : NoCapital f.word := by cases f <;> decide
  have hnamed (t : String) : LogFormat.named? t = some f ↔ t = f.word := by
    unfold LogFormat.named?
    split <;> cases f <;> simp_all [LogFormat.word]
  rw [LogFormat.parse?, hs, hnamed, lower_eq_iff hsmall]

/-- A text without blanks around it is read as the value that it writes. -/
lemma read?_eq_some_iff (v : Variable) {s : String} (hs : trim s = s) {a : v.field.Value} :
    v.read? s = some a ↔ v.Means s.toList a := by
  cases v with
  | autoStart => exact bool?_eq_some_iff
  | maxValueChars | maxArrayItems | maxDepth => exact word?_eq_some_iff
  | level => exact level?_eq_some_iff
  | format => exact parse?_eq_some_iff hs

lemma holds_iff {v : Variable} {raw : String} {a : v.field.Value} :
    v.Holds raw a ↔ v.read? (trim raw) = some a := by
  have htrim : trimChars raw.toList = (trim raw).toList := String.toList_ofList.symm
  simp only [read?_eq_some_iff v (trim_trim raw), Holds, trimmed_iff, htrim, exists_eq_left']

lemma trimmed_nil_iff {raw : String} : Trimmed raw.toList [] ↔ trim raw = "" := by
  rw [trimmed_iff, trim, ← String.toList_inj, String.toList_ofList]
  rfl

/-- A blank text holds nothing. -/
lemma read?_empty (v : Variable) : v.read? "" = none := by
  cases v <;> rfl

/-! ### Reading one after the other -/

variable (lookup : String → Option String)

def value? (v : Variable) : Except VariableError (Option v.field.Value) :=
  v.setting? lookup v.read? v.refusal

/-- What comes of reading one variable. -/
inductive Outcome (v : Variable) : Except VariableError (Option v.field.Value) → Prop
  | unset (h : lookup v.name = none) : Outcome v (.ok none)
  | holds {raw : String} {a : v.field.Value} (h : lookup v.name = some raw) (ha : v.Holds raw a) :
    Outcome v (.ok (some a))
  | bad {raw : String} {e : VariableError} (h : lookup v.name = some raw)
    (hnone : ∀ a, ¬v.Holds raw a) (he : v.Complains raw e) : Outcome v (.error e)

lemma outcome_value? (v : Variable) : v.Outcome lookup (v.value? lookup) := by
  rw [value?, setting?]
  cases hraw : lookup v.name with
  | none => exact .unset hraw
  | some raw =>
    dsimp only
    split
    · next hblank =>
      refine .bad hraw (fun a ha => ?_) (.empty (trimmed_nil_iff.mpr hblank))
      rw [holds_iff, hblank, read?_empty] at ha
      exact absurd ha nofun
    · next hblank =>
      cases hread : v.read? (trim raw) with
      | some a => exact .holds hraw (holds_iff.mpr hread)
      | none =>
        refine .bad hraw (fun a ha => ?_) (.refused fun h => hblank (trimmed_nil_iff.mp h))
        rw [holds_iff, hread] at ha
        exact absurd ha nofun

variable {lookup : String → Option String} {v : Variable} {raw : String}

/-- A text holds one value at most. -/
lemma Holds.eq {a b : v.field.Value} (ha : v.Holds raw a) (hb : v.Holds raw b) : a = b :=
  Option.some.inj ((holds_iff.mp ha).symm.trans (holds_iff.mp hb))

lemma Complains.eq {e e' : VariableError} (h : v.Complains raw e) (h' : v.Complains raw e') :
    e = e' := by
  cases h with
  | empty h => cases h' with
    | empty => rfl
    | refused h' => exact absurd h h'
  | refused h => cases h' with
    | empty h' => exact absurd h' h
    | refused => rfl

def fault? (lookup : String → Option String) (v : Variable) : Option VariableError :=
  match v.value? lookup with
  | .ok _ => none
  | .error e => some e

lemma fault?_eq_some_iff {e : VariableError} : fault? lookup v = some e ↔
    ∃ raw, lookup v.name = some raw ∧ (∀ a, ¬v.Holds raw a) ∧ v.Complains raw e := by
  have houtcome := outcome_value? lookup v
  rw [fault?]
  generalize v.value? lookup = x at houtcome
  cases houtcome with
  | unset h => simp [h]
  | holds h ha =>
    refine iff_of_false nofun ?_
    rintro ⟨raw, hraw, hnone, -⟩
    obtain rfl := Option.some.inj (h.symm.trans hraw)
    exact hnone _ ha
  | bad h hnone he =>
    constructor
    · rintro hsome
      obtain rfl := Option.some.inj hsome
      exact ⟨_, h, hnone, he⟩
    · rintro ⟨raw, hraw, -, he'⟩
      obtain rfl := Option.some.inj (h.symm.trans hraw)
      exact congrArg some (he.eq he')

lemma fine_iff : v.Fine lookup ↔ fault? lookup v = none := by
  have houtcome := outcome_value? lookup v
  rw [fault?, Fine]
  generalize v.value? lookup = x at houtcome
  cases houtcome with
  | unset h => simp [h]
  | holds h ha =>
    refine iff_of_true (fun raw hraw => ?_) rfl
    obtain rfl := Option.some.inj (h.symm.trans hraw)
    exact ⟨_, ha⟩
  | bad h hnone he =>
    refine iff_of_false (fun hfine => ?_) nofun
    obtain ⟨a, ha⟩ := hfine _ h
    exact hnone a ha

/-- What is read of a variable is what its text holds. -/
lemma eq_some_iff_of_value? {x : Option v.field.Value} (h : v.value? lookup = .ok x) :
    (∀ a, x = some a ↔ ∃ raw, lookup v.name = some raw ∧ v.Holds raw a) ∧
      (x.isSome ↔ (lookup v.name).isSome) := by
  have houtcome := outcome_value? lookup v
  rw [h] at houtcome
  cases houtcome with
  | unset hraw => simp [hraw]
  | holds hraw ha =>
    refine ⟨fun b => ?_, by simp [hraw]⟩
    rw [hraw]
    constructor
    · rintro hb
      exact ⟨_, rfl, Option.some.inj hb ▸ ha⟩
    · rintro ⟨raw, hsame, hb⟩
      obtain rfl := Option.some.inj hsame
      exact congrArg some (ha.eq hb)

end Variable

/-! ### Reading all variables -/

namespace Settings

variable {lookup : String → Option String} {s : Settings}

lemma ofVariables_eq (lookup : String → Option String) : ofVariables lookup = (do
    let autoStart ← Variable.autoStart.value? lookup
    let maxValueChars ← Variable.maxValueChars.value? lookup
    let maxArrayItems ← Variable.maxArrayItems.value? lookup
    let maxDepth ← Variable.maxDepth.value? lookup
    let level ← Variable.level.value? lookup
    let format ← Variable.format.value? lookup
    pure ⟨autoStart, maxValueChars, maxArrayItems, maxDepth, level, format⟩) := rfl

lemma ofVariables_congr {lookup' : String → Option String}
    (h : ∀ v : Variable, lookup' v.name = lookup v.name) :
    ofVariables lookup' = ofVariables lookup := by
  simp only [ofVariables, Variable.setting?, h]

/-- Reading goes on to the other variables if there is no fault in the first. -/
lemma bind_value?_eq_error_iff {α : Type} {e : VariableError} {v : Variable} {vs : List Variable}
    {next : Option v.field.Value → Except VariableError α}
    (hnext : ∀ x, next x = .error e ↔ vs.findSome? (Variable.fault? lookup) = some e) :
    v.value? lookup >>= next = .error e ↔
      (v :: vs).findSome? (Variable.fault? lookup) = some e := by
  rw [List.findSome?_cons, Variable.fault?]
  cases v.value? lookup with
  | error e' => simp [bind, Except.bind]
  | ok x => exact hnext x

/-- The first fault of a variable is the error. -/
lemma ofVariables_eq_error_iff {e : VariableError} :
    ofVariables lookup = .error e ↔ Variable.all.findSome? (Variable.fault? lookup) = some e := by
  rw [ofVariables_eq, Variable.all]
  refine bind_value?_eq_error_iff fun autoStart => bind_value?_eq_error_iff fun maxValueChars =>
    bind_value?_eq_error_iff fun maxArrayItems => bind_value?_eq_error_iff fun maxDepth =>
      bind_value?_eq_error_iff fun level => bind_value?_eq_error_iff fun format => ?_
  exact iff_of_false nofun nofun

lemma exists_ofVariables_iff :
    (∃ s, ofVariables lookup = .ok s) ↔ ∀ v : Variable, v.Fine lookup := by
  have hall (v : Variable) : v ∈ Variable.all := by cases v <;> decide
  have hfaults : (∀ v : Variable, v.Fine lookup) ↔
      Variable.all.findSome? (Variable.fault? lookup) = Option.none := by
    simp only [Variable.fine_iff, List.findSome?_eq_none_iff, hall, forall_const]
  rw [hfaults]
  cases hresult : ofVariables lookup with
  | error e => simp [ofVariables_eq_error_iff.mp hresult]
  | ok s =>
    refine iff_of_true ⟨s, rfl⟩ (Option.eq_none_iff_forall_ne_some.mpr fun e he => ?_)
    rw [ofVariables_eq_error_iff.mpr he] at hresult
    exact absurd hresult nofun

lemma value?_of_ofVariables (h : ofVariables lookup = .ok s) (v : Variable) :
    v.value? lookup = .ok (s.get v.field) := by
  rw [ofVariables_eq] at h
  obtain ⟨autoStart, hautoStart, h⟩ := Except.exists_of_bind_eq_ok h
  obtain ⟨maxValueChars, hmaxValueChars, h⟩ := Except.exists_of_bind_eq_ok h
  obtain ⟨maxArrayItems, hmaxArrayItems, h⟩ := Except.exists_of_bind_eq_ok h
  obtain ⟨maxDepth, hmaxDepth, h⟩ := Except.exists_of_bind_eq_ok h
  obtain ⟨level, hlevel, h⟩ := Except.exists_of_bind_eq_ok h
  obtain ⟨format, hformat, h⟩ := Except.exists_of_bind_eq_ok h
  obtain rfl := Except.ok.inj h
  cases v with
  | autoStart => exact hautoStart
  | maxValueChars => exact hmaxValueChars
  | maxArrayItems => exact hmaxArrayItems
  | maxDepth => exact hmaxDepth
  | level => exact hlevel
  | format => exact hformat

/-- Variables set all fields of the settings. -/
lemma eq_none_iff : s = none ↔ ∀ v : Variable, s.get v.field = Option.none := by
  constructor
  · rintro rfl v
    exact get_none v.field
  · intro h
    obtain ⟨autoStart, maxValueChars, maxArrayItems, maxDepth, level, format⟩ := s
    obtain rfl : autoStart = Option.none := h .autoStart
    obtain rfl : maxValueChars = Option.none := h .maxValueChars
    obtain rfl : maxArrayItems = Option.none := h .maxArrayItems
    obtain rfl : maxDepth = Option.none := h .maxDepth
    obtain rfl : level = Option.none := h .level
    obtain rfl : format = Option.none := h .format
    rfl

lemma readStrictly (lookup : String → Option String) : ReadStrictly lookup where
  known _ := ofVariables_congr
  accepts_iff := exists_ofVariables_iff
  gives s h v := Variable.eq_some_iff_of_value? (value?_of_ofVariables h v)
  isEmpty_iff := by
    intro s h
    have hvalue (v : Variable) := (Variable.eq_some_iff_of_value? (value?_of_ofVariables h v)).2
    rw [isEmpty, decide_eq_true_eq, eq_none_iff]
    refine forall_congr' fun v => ?_
    rw [← Option.not_isSome_iff_eq_none, hvalue v, Option.not_isSome_iff_eq_none]
  refuses_iff := by
    intro e
    rw [ofVariables_eq_error_iff, List.findSome?_eq_some_iff]
    constructor
    · rintro ⟨earlier, v, later, hall, hfault, hearlier⟩
      obtain ⟨raw, hraw, hnone, he⟩ := Variable.fault?_eq_some_iff.mp hfault
      exact ⟨v, raw, ⟨hraw, hnone, earlier, later, hall,
        fun u hu => Variable.fine_iff.mpr (hearlier u hu)⟩, he⟩
    · rintro ⟨v, raw, ⟨hraw, hnone, earlier, later, hall, hearlier⟩, he⟩
      exact ⟨earlier, v, later, hall, Variable.fault?_eq_some_iff.mpr ⟨raw, hraw, hnone, he⟩,
        fun u hu => Variable.fine_iff.mp (hearlier u hu)⟩

end Settings

/-! ### The level in either place -/

/-- Overrides that can be read leave the level open. -/
def LeavesLevel (overrides : Option String) : Prop :=
  ∀ t o, overrides = some t → ConfigOverrides.ofText? t = some o → o.logging.level = none

/-- A loader with the settings of an environment, if that has any. -/
def withVariables (lookup : String → Option String)
    (load : Settings → Except Envelope ValidConfig) : Except Envelope ValidConfig := do
  let env ← (Settings.ofVariables lookup).mapError VariableError.envelope
  load env

/-- The environment with one more variable. -/
def setting (lookup : String → Option String) (v : Variable) (s : String) :
    String → Option String :=
  Function.update lookup v.name (some s)

/-- A text gives the same configuration, or none, as the level of the environment and as that of a
configuration text, whatever else stands there and in the overrides. -/
structure LevelAgrees (s : String) : Prop where
  /-- Every text can be written as the level of a configuration text. -/
  writable : ∀ (form : ConfigSyntax) (c : Config),
    form.config? (({ c with level := s } : Config).printed form) = some { c with level := s }
  text : ∀ (t t' overrides : Option String) (base : Config) (lookup : String → Option String),
    Config.orStandard (Config.ofText .json) t = .ok base →
    Config.orStandard (Config.ofText .json) t' = .ok { base with level := s } →
    LeavesLevel overrides → lookup Variable.level.name = none →
      (withVariables (setting lookup .level s) (ValidConfig.ofSources t overrides)).toOption =
        (withVariables lookup (ValidConfig.ofSources t' overrides)).toOption
  file : ∀ (files files' : Files) (path path' overrides : Option String) (base : Config)
      (lookup : String → Option String),
    Config.orStandard (Config.ofFile files) path = .ok base →
    Config.orStandard (Config.ofFile files') path' = .ok { base with level := s } →
    LeavesLevel overrides → lookup Variable.level.name = none →
      (withVariables (setting lookup .level s)
          (ValidConfig.ofPath files path overrides)).toOption =
        (withVariables lookup (ValidConfig.ofPath files' path' overrides)).toOption

namespace Config

variable {c : Config}

lemma validate_eq_ok_iff {v : ValidConfig} : c.validate = .ok v ↔
    (∀ k : Requirement, k.Met c) ∧ v.config = { c with level := lower (trim c.level) } := by
  constructor
  · exact fun h => ⟨c.validated.accepts_iff.mp ⟨v, h⟩, c.validated.changes_level v h⟩
  · rintro ⟨hmet, hconfig⟩
    obtain ⟨v', hv'⟩ := c.validated.accepts_iff.mpr hmet
    have hsame : v'.config = v.config := (c.validated.changes_level v' hv').trans hconfig.symm
    obtain rfl : v' = v := by
      cases v
      cases v'
      cases hsame
      rfl
    exact hv'

/-- The level counts as what it names. -/
lemma validate_level (c : Config) : c.validate.toOption =
    (levelOf? c.level).bind fun l => ({ c with level := l.text } : Config).validate.toOption := by
  ext v
  have htoOption (c : Config) : c.validate.toOption = some v ↔ c.validate = .ok v := by
    cases c.validate <;> simp [Except.toOption]
  simp only [Option.bind_eq_some_iff, htoOption, validate_eq_ok_iff]
  have hcanonical {l : LogLevel} (hl : levelOf? c.level = some l) :
      lower (trim l.text) = lower (trim c.level) := by
    rw [levelOf?_eq_some_iff.mp hl]
    exact levelOf?_eq_some_iff (c := { c with level := l.text }).mp (levelOf?_text l)
  have hmet {l : LogLevel} (hl : levelOf? c.level = some l) (k : Requirement) :
      k.Met { c with level := l.text } ↔ k.Met c := by
    by_cases hk : k = .level
    · subst hk
      exact iff_of_true (met_level_iff.mpr ⟨l, levelOf?_text l⟩) (met_level_iff.mpr ⟨l, hl⟩)
    · exact met_setLevel_iff hk
  constructor
  · rintro ⟨hall, hconfig⟩
    obtain ⟨l, hl⟩ := met_level_iff.mp (hall .level)
    exact ⟨l, hl, fun k => (hmet hl k).mpr (hall k), by rw [hconfig, hcanonical hl]⟩
  · rintro ⟨l, hl, hall, hconfig⟩
    exact ⟨fun k => (hmet hl k).mp (hall k), by rw [hconfig, hcanonical hl]⟩

end Config

namespace Variable

variable {lookup : String → Option String} {s : String}

lemma name_injective : Function.Injective name := by
  intro v w h
  cases v <;> cases w <;> first | rfl | exact absurd h (by decide)

lemma value?_setting {v : Variable} (h : v ≠ level) :
    v.value? (setting lookup .level s) = v.value? lookup := by
  have hname : setting lookup .level s v.name = lookup v.name :=
    Function.update_of_ne (name_injective.ne h) _ _
  rw [value?, value?, setting?, setting?, hname]

lemma toOption_value? {v : Variable} {raw : String} (h : lookup v.name = some raw) :
    (v.value? lookup).toOption = (v.read? (trim raw)).map some := by
  rw [value?, setting?, h]
  dsimp only
  split
  · next hblank =>
    rw [hblank, read?_empty]
    rfl
  · cases v.read? (trim raw) <;> rfl

/-- The environment takes the texts that a configuration takes for its level. -/
lemma toOption_value?_level : (level.value? (setting lookup .level s)).toOption =
    (Config.levelOf? s).map fun l => some l.text := by
  have hset : setting lookup .level s level.name = some s := Function.update_self _ _ _
  have hread : level.read? (trim s) = (Config.levelOf? s).map LogLevel.text := rfl
  rw [toOption_value? hset, hread]
  cases Config.levelOf? s <;> rfl

end Variable

lemma Except.toOption_bind {ε α β : Type} (x : Except ε α) (f : α → Except ε β) :
    (x >>= f).toOption = x.toOption.bind fun a => (f a).toOption := by
  cases x <;> rfl

/-- With a level in it an environment is read as without, and the level beside. -/
lemma Settings.toOption_ofVariables_setting {lookup : String → Option String}
    (h : lookup Variable.level.name = Option.none) (s : String) :
    (ofVariables (setting lookup .level s)).toOption =
      (ofVariables lookup).toOption.bind fun env =>
        (Config.levelOf? s).map fun l => { env with level := some l.text } := by
  have hunset : Variable.level.value? lookup = .ok Option.none := by
    rw [Variable.value?, Variable.setting?, h]
  rw [ofVariables_eq, ofVariables_eq lookup, hunset,
    Variable.value?_setting (v := .autoStart) nofun,
    Variable.value?_setting (v := .maxValueChars) nofun,
    Variable.value?_setting (v := .maxArrayItems) nofun,
    Variable.value?_setting (v := .maxDepth) nofun,
    Variable.value?_setting (v := .format) nofun]
  simp only [Except.toOption_bind, Variable.toOption_value?_level, Option.bind_assoc]
  refine Option.bind_congr fun autoStart _ => Option.bind_congr fun maxValueChars _ =>
    Option.bind_congr fun maxArrayItems _ => Option.bind_congr fun maxDepth _ => ?_
  cases Config.levelOf? s <;> cases Variable.format.value? lookup <;> rfl

namespace ValidConfig

variable {overrides : Option String} {s : String}

/-- Only the last level counts. -/
lemma toOption_merge_level {c : Config} {env : Settings} (henv : env.level = none) :
    (merge { c with level := s } env).toOption =
      (Config.levelOf? s).bind fun l => (merge c { env with level := some l.text }).toOption := by
  have hmerge (c : Config) (env : Settings) :
      (merge c env).toOption = (env.apply c).validate.toOption := by
    rw [merge]
    cases Config.validate _ <;> rfl
  have hlevel : (env.apply { c with level := s }).level = s := by
    rw [Settings.apply, henv]
    rfl
  simp only [hmerge]
  rw [Config.validate_level, hlevel]
  rfl

/-- Overrides that leave the level open do not look at it. -/
lemma overridden_level (base : Config) (h : LeavesLevel overrides) :
    ({ base with level := s } : Config).overridden overrides =
      (base.overridden overrides).map fun c => { c with level := s } := by
  cases overrides with
  | none => rfl
  | some t =>
    rw [Config.overridden, Config.overridden, ConfigOverrides.ofText]
    cases hoverrides : ConfigOverrides.ofText? t with
    | none => rfl
    | some o =>
      have hlevel : o.logging.level = none := h t o rfl hoverrides
      show Except.ok (o.apply { base with level := s }) =
        Except.ok { o.apply base with level := s }
      rw [ConfigOverrides.apply, hlevel]
      rfl

/-- What goes on from a base, the same overrides and the environment agrees on the level. -/
lemma toOption_withVariables (base : Config) {lookup : String → Option String}
    {load load' : Settings → Except Envelope ValidConfig}
    (hload : ∀ env, load env = finish base overrides env)
    (hload' : ∀ env, load' env = finish { base with level := s } overrides env)
    (hoverrides : LeavesLevel overrides) (hunset : lookup Variable.level.name = none) :
    (withVariables (setting lookup .level s) load).toOption =
      (withVariables lookup load').toOption := by
  have hmapError (lookup : String → Option String) :
      ((Settings.ofVariables lookup).mapError VariableError.envelope).toOption =
        (Settings.ofVariables lookup).toOption := by
    cases Settings.ofVariables lookup <;> rfl
  rw [withVariables, withVariables, Except.toOption_bind, Except.toOption_bind, hmapError,
    hmapError, Settings.toOption_ofVariables_setting hunset]
  cases hvariables : Settings.ofVariables lookup with
  | error => rfl
  | ok env =>
    have henv : env.level = none := by
      have hlevel := (Variable.eq_some_iff_of_value?
        (Settings.value?_of_ofVariables hvariables .level)).2
      rw [hunset] at hlevel
      exact Option.not_isSome_iff_eq_none.mp (mt hlevel.mp nofun)
    have hlevel := overridden_level (s := s) base hoverrides
    simp only [Except.toOption, Option.bind_some, Option.bind_map, Function.comp_def]
    simp only [hload, hload', finish, hlevel]
    cases base.overridden overrides with
    | error => cases Config.levelOf? s <;> rfl
    | ok c => exact (toOption_merge_level henv).symm

end ValidConfig

lemma levelAgrees (s : String) : LevelAgrees s where
  writable form c := Config.config?_printed form { c with level := s }
  text := by
    intro t t' overrides base lookup ht ht' hoverrides hunset
    refine ValidConfig.toOption_withVariables base (fun env => ?_) (fun env => ?_) hoverrides hunset
    · rw [ValidConfig.ofSources, ht]
      rfl
    · rw [ValidConfig.ofSources, ht']
      rfl
  file := by
    intro files files' path path' overrides base lookup hpath hpath' hoverrides hunset
    refine ValidConfig.toOption_withVariables base (fun env => ?_) (fun env => ?_) hoverrides hunset
    · rw [ValidConfig.ofPath, hpath]
      rfl
    · rw [ValidConfig.ofPath, hpath']
      rfl

/-- **The environment is read exactly and strictly.** Of every environment the six variables are
read, each in its own language, and the first that holds no value is the error. The level is read
in the environment as in a configuration text. -/
theorem variables_exact :
    (∀ lookup : String → Option String, Settings.ReadStrictly lookup) ∧
      ∀ s : String, LevelAgrees s :=
  ⟨Settings.readStrictly, levelAgrees⟩

end CallWatch
