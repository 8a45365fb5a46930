import CallWatch.Error.Codec
import CallWatch.Name.Codec
import CallWatch.Proofs.Documents
import CallWatch.Proofs.Json.Compact
import CallWatch.Proofs.Name.Grammar
import Mathlib.Data.List.Induction

/-!
Names, states and error envelopes as JSON texts.

A value is written as the text of its JSON, and read from the document of a text. What was written
is read back as it was. The other way round a text may say more than the value that is read from it:
names are read by parsing what the document says, so blanks around them are lost, and what cannot be
parsed is not read at all.
-/

namespace CallWatch

open CallWatch.Text

/-- A kind of values that are stored as JSON. -/
structure Stored (α : Type) where
  toJson : α → Json
  ofDocument? : Document → Option α

namespace Stored

variable {α : Type}

def write (s : Stored α) (a : α) : String := (s.toJson a).compact

def read? (s : Stored α) (text : String) : Option α := (Json.document? text).bind s.ofDocument?

def serviceName : Stored ServiceName := ⟨ServiceName.toJson, ServiceName.ofDocument?⟩

def label (kind : NameKind) : Stored (Label kind) := ⟨Label.toJson, Label.ofDocument? kind⟩

def descriptor : Stored ServiceDescriptor :=
  ⟨ServiceDescriptor.toJson, ServiceDescriptor.ofDocument? .json⟩

def invokeState : Stored InvokeState := ⟨InvokeState.toJson, InvokeState.ofDocument? .json⟩

def envelope : Stored Envelope := ⟨Envelope.toJson, Envelope.ofDocument? .json⟩

/-- What is written of the value that is read from a text. -/
def rewrite? (s : Stored α) (text : String) : Option String := (s.read? text).map s.write

/-- What is written is read back, and a text that was written from another one stays as it is. -/
structure Kept (s : Stored α) : Prop where
  compact : ∀ a, s.read? (s.write a) = some a
  pretty : ∀ a, s.read? (s.toJson a).pretty = some a
  settled : ∀ text text', s.rewrite? text = some text' → s.rewrite? text' = some text'

/-- A value is read from a text by parsing it. -/
structure Parsed (s : Stored α) (parse : String → Except NameError α) : Prop where
  exact : ∀ text a, s.read? text = some a ↔
    ∃ x, Json.document? text = some (.text x) ∧ parse x = .ok a
  refused : ∀ text x e, Json.document? text = some (.text x) → parse x = .error e →
    s.read? text = none

/-- A value is read from a structure by parsing the texts of two fields together. -/
structure ParsedBoth (s : Stored α) (shape : Document.Shape) (first second : String)
    (parse : String → String → Except NameError α) : Prop where
  exact : ∀ text a, s.read? text = some a ↔ ∃ v x y, Json.document? text = some v ∧
    (v.fields? .json shape).isSome ∧ v.lookup? shape first = some (.text x) ∧
      v.lookup? shape second = some (.text y) ∧ parse x y = .ok a
  refused : ∀ text v x y e, Json.document? text = some v → v.lookup? shape first = some (.text x) →
    v.lookup? shape second = some (.text y) → parse x y = .error e → s.read? text = none

end Stored

/-- Storing is exact. -/
structure StoredExactly : Prop where
  serviceName : Stored.serviceName.Kept
  label : ∀ kind, (Stored.label kind).Kept
  descriptor : Stored.descriptor.Kept
  invokeState : Stored.invokeState.Kept
  envelope : Stored.envelope.Kept
  parsed_serviceName : Stored.serviceName.Parsed ServiceName.parse
  parsed_label : ∀ kind, (Stored.label kind).Parsed (Label.parse kind)
  parsed_descriptor : Stored.descriptor.ParsedBoth ServiceDescriptor.shape "name" "package"
    ServiceDescriptor.parse
  parsed_invokeState : Stored.invokeState.ParsedBoth InvokeState.shape "session" "user"
    InvokeState.parse
  /-- What is parsed is the text without the blanks around it. -/
  trims_serviceName : ∀ x n, ServiceName.parse x = .ok n →
    n.text = trim x ∧ n.text ≠ "" ∧ ServiceName.Qualified n.text.toList
  trims_label : ∀ kind x l, Label.parse kind x = .ok l → l.text = trim x ∧ l.text ≠ ""
  /-- The parts of a structure are parsed each for itself. -/
  parts_descriptor : ∀ x y d, ServiceDescriptor.parse x y = .ok d ↔
    ServiceName.parse x = .ok d.name ∧ Label.parse .package y = .ok d.package
  parts_invokeState : ∀ x y s, InvokeState.parse x y = .ok s ↔
    Label.parse .session x = .ok s.session ∧ Label.parse .user y = .ok s.user

/-! ### Texts of names -/

namespace ServiceName

lemma apart_blank_alphabetic :
    ∀ r ∈ blankRanges, ∀ q ∈ alphabeticRanges, r.2 < q.1 ∨ q.2 < r.1 := by decide +kernel

lemma apart_blank_numeric :
    ∀ r ∈ blankRanges, ∀ q ∈ numericRanges, r.2 < q.1 ∨ q.2 < r.1 := by decide +kernel

lemma inRanges_eq_false_of_apart {rs qs : List (Nat × Nat)} {c : Char}
    (happart : ∀ r ∈ rs, ∀ q ∈ qs, r.2 < q.1 ∨ q.2 < r.1) (h : inRanges rs c = true) :
    inRanges qs c = false := by
  rw [← Bool.not_eq_true, inRanges_iff]
  rintro ⟨q, hq, hlow, hhigh⟩
  obtain ⟨r, hr, hlow', hhigh'⟩ := inRanges_iff.mp h
  rcases happart r hr q hq with hbefore | hbehind
  · omega
  · omega

/-- No character of a segment is a blank. -/
lemma isBlank_of_isSegmentChar {c : Char} (h : isSegmentChar c = true) : isBlank c = false := by
  rw [← Bool.not_eq_true]
  intro hblank
  have halphabetic : isAlphabetic c = false :=
    inRanges_eq_false_of_apart apart_blank_alphabetic hblank
  have hnumeric : isNumeric c = false := inRanges_eq_false_of_apart apart_blank_numeric hblank
  simp only [isSegmentChar, isAlphanumeric, halphabetic, hnumeric, Bool.or_eq_true,
    decide_eq_true_eq, Bool.false_eq_true, false_or] at h
  rcases h with (rfl | rfl) | rfl <;> exact absurd hblank (by decide)

lemma Segment.solid {p : List Char} (h : Segment p) : ∀ c ∈ p, isBlank c = false :=
  fun _ hc => isBlank_of_isSegmentChar (isSegmentChar_of_mem (segment_iff.mpr h) hc)

lemma Path.solid {i : List Char} (h : Path i) : ∀ c ∈ i, isBlank c = false := by
  induction h with
  | one h => exact h.solid
  | more h _ ih =>
    intro c hc
    rcases List.mem_append.mp hc with hc | hc
    · exact h.solid c hc
    · rcases List.mem_cons.mp hc with rfl | hc
      · rfl
      · exact ih c hc

lemma trim_text (n : ServiceName) : trim n.text = n.text := by
  have hsolid : ∀ c ∈ n.text.toList, isBlank c = false := by
    intro c hc
    rw [toList_text] at hc
    rcases List.mem_append.mp hc with hc | hc
    · exact n.path_interface.solid c hc
    · rcases List.mem_cons.mp hc with rfl | hc
      · rfl
      · exact n.segment_localName.solid c hc
  rw [trim, trimChars_of_solid hsolid, String.ofList_toList]

end ServiceName

/-! ### Parsing -/

lemma Except.bind_bind_eq_ok_iff {ε α β γ : Type} {x : Except ε α} {y : Except ε β}
    {f : α → β → γ} {c : γ} : (do let a ← x; let b ← y; pure (f a b)) = .ok c ↔
      ∃ a b, x = .ok a ∧ y = .ok b ∧ f a b = c := by
  cases x with
  | error e => exact ⟨nofun, fun ⟨_, _, h, _⟩ => absurd h nofun⟩
  | ok a =>
    cases y with
    | error e => exact ⟨nofun, fun ⟨_, _, _, h, _⟩ => absurd h nofun⟩
    | ok b =>
      constructor
      · intro h
        exact ⟨a, b, rfl, rfl, Except.ok.inj h⟩
      · rintro ⟨_, _, ha, hb, rfl⟩
        obtain rfl := Except.ok.inj ha
        obtain rfl := Except.ok.inj hb
        rfl

section Parsing

variable {x y : String}

lemma Label.parse_eq_ok_iff {kind : NameKind} {l : Label kind} :
    parse kind x = .ok l ↔ trim x = l.text := by
  rw [parse]
  split
  · rename_i hblank
    rw [hblank]
    constructor
    · intro h
      cases h
    · exact fun h => absurd h.symm l.nonempty
  · constructor
    · intro h
      rw [← Except.ok.inj h]
    · intro h
      exact congrArg Except.ok (ext_text h)

lemma ServiceDescriptor.parse_eq_ok_iff {d : ServiceDescriptor} : parse x y = .ok d ↔
    ServiceName.parse x = .ok d.name ∧ Label.parse .package y = .ok d.package := by
  refine Except.bind_bind_eq_ok_iff.trans ⟨?_, fun ⟨hn, hp⟩ => ⟨_, _, hn, hp, rfl⟩⟩
  rintro ⟨n, p, hn, hp, rfl⟩
  exact ⟨hn, hp⟩

lemma InvokeState.parse_eq_ok_iff {s : InvokeState} : parse x y = .ok s ↔
    Label.parse .session x = .ok s.session ∧ Label.parse .user y = .ok s.user := by
  refine Except.bind_bind_eq_ok_iff.trans ⟨?_, fun ⟨hs, hu⟩ => ⟨_, _, hs, hu, rfl⟩⟩
  rintro ⟨s, u, hs, hu, rfl⟩
  exact ⟨hs, hu⟩

end Parsing

/-! ### Reading by parsing -/

namespace Document

variable {α β γ ε : Type} {v : Document}

/-- Only a text is read by parsing. -/
lemma bind_text?_eq_some_iff {parse : String → Except ε α} {a : α} :
    (v.text?.bind fun x => (parse x).toOption) = some a ↔
      ∃ x, v = .text x ∧ parse x = .ok a := by
  cases v with
  | text x =>
    cases hparse : parse x with
    | error e => simp [text?, hparse, Except.toOption]
    | ok b => simp [text?, hparse, Except.toOption]
  | null | bool _ | int _ | other | list _ | record _ => simp [text?]

/-- Two fields of a structure are read each from its place. -/
lemma bind_fields?_eq_some_iff {d : Dialect} {s : Shape} {first second : String}
    {read? : Document → Option α} {read?' : Document → Option β} {f : α → β → γ} {c : γ}
    (hfirst : first ∈ s.names) (hsecond : second ∈ s.names) :
    (do
      let fields ← v.fields? d s
      let a ← field? read? fields first
      let b ← field? read?' fields second
      pure (f a b)) = some c ↔
    (v.fields? d s).isSome ∧ ∃ a b, (v.lookup? s first).bind read? = some a ∧
      (v.lookup? s second).bind read?' = some b ∧ f a b = c := by
  cases hfields : v.fields? d s with
  | none => simp
  | some fields =>
    simp only [bind, Option.bind_some, field?, get?_of_fields? hfields hfirst,
      get?_of_fields? hfields hsecond, Option.bind_eq_some_iff, pure, Option.some.injEq]
    simp

/-- Two fields that are read by parsing say two texts. -/
lemma bind_lookup?_eq_some_iff {s : Shape} {name : String} {parse : String → Except ε α} {a : α} :
    ((v.lookup? s name).bind fun w => w.text?.bind fun x => (parse x).toOption) = some a ↔
      ∃ x, v.lookup? s name = some (.text x) ∧ parse x = .ok a := by
  rw [Option.bind_eq_some_iff]
  constructor
  · rintro ⟨w, hw, hread⟩
    obtain ⟨x, rfl, hparse⟩ := bind_text?_eq_some_iff.mp hread
    exact ⟨x, hw, hparse⟩
  · rintro ⟨x, hx, hparse⟩
    exact ⟨_, hx, bind_text?_eq_some_iff.mpr ⟨x, rfl, hparse⟩⟩

end Document

namespace Stored

variable {α : Type} {s : Stored α}

lemma parsed {parse : String → Except NameError α}
    (h : ∀ v, s.ofDocument? v = v.text?.bind fun x => (parse x).toOption) : s.Parsed parse := by
  have hexact (text : String) (a : α) : s.read? text = some a ↔
      ∃ x, Json.document? text = some (.text x) ∧ parse x = .ok a := by
    rw [read?, Option.bind_eq_some_iff]
    constructor
    · rintro ⟨v, hv, hread⟩
      obtain ⟨x, rfl, hparse⟩ := Document.bind_text?_eq_some_iff.mp ((h v).symm.trans hread)
      exact ⟨x, hv, hparse⟩
    · rintro ⟨x, hx, hparse⟩
      exact ⟨_, hx, (h _).trans (Document.bind_text?_eq_some_iff.mpr ⟨x, rfl, hparse⟩)⟩
  refine ⟨hexact, fun text x e hx hparse => ?_⟩
  rw [Option.eq_none_iff_forall_ne_some]
  intro a ha
  obtain ⟨x', hx', hparse'⟩ := (hexact text a).mp ha
  obtain rfl : x' = x := Document.text.inj (Option.some.inj (hx'.symm.trans hx))
  exact absurd (hparse.symm.trans hparse') nofun

/-- A structure of two parsed fields is read by parsing both. -/
lemma parsedBoth {β γ : Type} {shape : Document.Shape} {first second : String}
    {parse : String → String → Except NameError α} {parseFirst : String → Except NameError β}
    {parseSecond : String → Except NameError γ} {f : β → γ → α} (hfirst : first ∈ shape.names)
    (hsecond : second ∈ shape.names)
    (hread : ∀ v, s.ofDocument? v = do
      let fields ← v.fields? .json shape
      let b ← Document.field? (fun w => w.text?.bind fun x => (parseFirst x).toOption) fields first
      let c ← Document.field? (fun w => w.text?.bind fun x => (parseSecond x).toOption) fields second
      pure (f b c))
    (hparse : ∀ x y, parse x y = do let b ← parseFirst x; let c ← parseSecond y; pure (f b c)) :
    s.ParsedBoth shape first second parse := by
  have hdocument (v : Document) (a : α) : s.ofDocument? v = some a ↔
      (v.fields? .json shape).isSome ∧ ∃ x y, v.lookup? shape first = some (.text x) ∧
        v.lookup? shape second = some (.text y) ∧ parse x y = .ok a := by
    rw [hread, Document.bind_fields?_eq_some_iff hfirst hsecond]
    refine and_congr_right' ?_
    simp only [hparse, Except.bind_bind_eq_ok_iff, Document.bind_lookup?_eq_some_iff]
    constructor
    · rintro ⟨b, c, ⟨x, hx, hb⟩, ⟨y, hy, hc⟩, rfl⟩
      exact ⟨x, y, hx, hy, b, c, hb, hc, rfl⟩
    · rintro ⟨x, y, hx, hy, b, c, hb, hc, rfl⟩
      exact ⟨b, c, ⟨x, hx, hb⟩, ⟨y, hy, hc⟩, rfl⟩
  have hexact (text : String) (a : α) : s.read? text = some a ↔
      ∃ v x y, Json.document? text = some v ∧ (v.fields? .json shape).isSome ∧
        v.lookup? shape first = some (.text x) ∧ v.lookup? shape second = some (.text y) ∧
          parse x y = .ok a := by
    simp only [read?, Option.bind_eq_some_iff, hdocument]
    constructor
    · rintro ⟨v, hv, hshape, x, y, hparts⟩
      exact ⟨v, x, y, hv, hshape, hparts⟩
    · rintro ⟨v, x, y, hv, hshape, hparts⟩
      exact ⟨v, hv, hshape, x, y, hparts⟩
  refine ⟨hexact, fun text v x y e hv hx hy he => ?_⟩
  rw [Option.eq_none_iff_forall_ne_some]
  intro a ha
  obtain ⟨v', x', y', hv', -, hx', hy', hok⟩ := (hexact text a).mp ha
  obtain rfl := Option.some.inj (hv'.symm.trans hv)
  obtain rfl : x' = x := Document.text.inj (Option.some.inj (hx'.symm.trans hx))
  obtain rfl : y' = y := Document.text.inj (Option.some.inj (hy'.symm.trans hy))
  exact absurd (he.symm.trans hok) nofun

lemma parsed_serviceName : serviceName.Parsed ServiceName.parse := parsed fun _ => rfl

lemma parsed_label (kind : NameKind) : (label kind).Parsed (Label.parse kind) :=
  parsed fun _ => rfl

lemma parsedBoth_descriptor :
    descriptor.ParsedBoth ServiceDescriptor.shape "name" "package" ServiceDescriptor.parse :=
  parsedBoth (by decide) (by decide) (fun _ => rfl) fun _ _ => rfl

lemma parsedBoth_invokeState :
    invokeState.ParsedBoth InvokeState.shape "session" "user" InvokeState.parse :=
  parsedBoth (by decide) (by decide) (fun _ => rfl) fun _ _ => rfl

/-! ### Writing and reading -/

/-- A value is kept if its document says it. -/
lemma kept (h : ∀ a, (s.toJson a).IsWhole ∧ s.ofDocument? (s.toJson a).document = some a) :
    s.Kept := by
  have hcompact (a : α) : s.read? (s.write a) = some a := by
    rw [read?, write, Json.document?_compact (h a).1, Option.bind_some, (h a).2]
  refine ⟨hcompact, fun a => ?_, fun text text' htext => ?_⟩
  · have hspace : [].all Json.Scan.isSpace = true := rfl
    have hread := Json.document?_pretty (h a).1 hspace
    rw [String.ofList_nil, String.append_empty] at hread
    rw [read?, hread, Option.bind_some, (h a).2]
  · obtain ⟨a, -, rfl⟩ := Option.map_eq_some_iff.mp htext
    rw [rewrite?, hcompact, Option.map_some]

end Stored

lemma ServiceName.ofDocument?_text (n : ServiceName) : ofDocument? (.text n.text) = some n :=
  Document.bind_text?_eq_some_iff.mpr ⟨_, rfl, parse_eq_ok_iff.mpr n.trim_text⟩

lemma Label.ofDocument?_text {kind : NameKind} (l : Label kind) :
    ofDocument? kind (.text l.text) = some l :=
  Document.bind_text?_eq_some_iff.mpr ⟨_, rfl, parse_eq_ok_iff.mpr l.trimmed⟩

lemma ServiceDescriptor.ofDocument?_document (d : ServiceDescriptor) :
    ofDocument? .json d.toJson.document = some d := by
  refine (Document.bind_fields?_eq_some_iff (by decide) (by decide)).mpr
    ⟨?_, d.name, d.package, ?_, ?_, rfl⟩
  · exact Option.isSome_of_eq_some (Document.fields?_record_names rfl (by decide))
  · exact d.name.ofDocument?_text
  · exact d.package.ofDocument?_text

lemma InvokeState.ofDocument?_document (s : InvokeState) :
    ofDocument? .json s.toJson.document = some s := by
  refine (Document.bind_fields?_eq_some_iff (by decide) (by decide)).mpr
    ⟨?_, s.session, s.user, ?_, ?_, rfl⟩
  · exact Option.isSome_of_eq_some (Document.fields?_record_names rfl (by decide))
  · exact s.session.ofDocument?_text
  · exact s.user.ofDocument?_text

/-! ### Envelopes -/

namespace Details

lemma insertSorted_of_lt {es : List (String × String)} {k v : String} (h : ∀ e ∈ es, e.1 < k) :
    insertSorted k v es = es ++ [(k, v)] := by
  induction es with
  | nil => rfl
  | cons e es ih =>
    have hlt := h e List.mem_cons_self
    rw [insertSorted, if_neg (String.lt_asymm hlt), if_pos hlt,
      ih fun e' he' => h e' (List.mem_cons_of_mem _ he'), List.cons_append]

/-- Details that are in order already are put one behind the other. -/
lemma entries_ofPairs {es : List (String × String)} (h : es.Pairwise fun a b => a.1 < b.1) :
    (ofPairs es).entries = es := by
  induction es using List.reverseRecOn with
  | nil => rfl
  | append_singleton es e ih =>
    obtain ⟨hes, -, hlast⟩ := List.pairwise_append.mp h
    rw [ofPairs, List.foldl_append, ← ofPairs]
    change insertSorted e.1 e.2 (ofPairs es).entries = _
    rw [ih hes, insertSorted_of_lt fun e' he' => hlast e' he' e List.mem_cons_self]

lemma ext_entries {d d' : Details} (h : d.entries = d'.entries) : d = d' := by
  cases d
  cases d'
  subst h
  rfl

lemma documentFields_strings (es : List (String × String)) :
    Json.documentFields (es.map fun e => (e.1, .str e.2)) = es.map fun e => (e.1, .text e.2) := by
  induction es with
  | nil => rfl
  | cons e es ih => rw [List.map_cons, Json.documentFields, ih, Json.document, List.map_cons]

lemma fieldsWhole_strings (es : List (String × String)) :
    Json.FieldsWhole (es.map fun e => (e.1, .str e.2)) := by
  induction es with
  | nil => exact trivial
  | cons e es ih => exact ⟨trivial, ih⟩

lemma mapM_entry? (es : List (String × String)) :
    (es.map fun e => (e.1, Document.text e.2)).mapM entry? = some es := by
  induction es with
  | nil => rfl
  | cons e es ih => rw [List.map_cons, List.mapM_cons, ih]; rfl

lemma ofDocument?_document (d : Details) : ofDocument? d.toJson.document = some d := by
  rw [toJson, Json.document, documentFields_strings, ofDocument?, mapM_entry?, Option.map_some]
  exact congrArg some (ext_entries (entries_ofPairs d.ascending))

end Details

lemma ErrorCode.ofDocument?_document (c : ErrorCode) :
    ofDocument? .json c.toJson.document = some c :=
  (Document.bind_fields?_eq_some_iff (by decide) (by decide)).mpr
    ⟨Option.isSome_of_eq_some (Document.fields?_record_names rfl (by decide)),
      c.space, c.name, rfl, rfl, rfl⟩

namespace Envelope

/-- The fields that every envelope has. -/
def head (e : Envelope) : Record Document := [
  ("kind", .text e.kind.variant),
  ("class", .text e.retry.variant),
  ("code", e.code.toJson.document),
  ("message", .text e.message)]

/-- An envelope is read from its fields and from its details, which may be missing. -/
lemma ofDocument?_record {e : Envelope} {r : Record Document}
    (hnames : r.map Prod.fst = [] ∨ r.map Prod.fst = ["metadata"])
    (hdetails : Document.optional? Details.ofDocument? .empty r "metadata" = some e.details) :
    ofDocument? .json (.record (e.head ++ r)) = some e := by
  have hfields : (Document.record (e.head ++ r)).fields? .json shape = some (e.head ++ r) := by
    rcases hnames with h | h
    · have hall : (e.head ++ r).map Prod.fst = ["kind", "class", "code", "message"] := by
        rw [List.map_append, h]
        rfl
      exact Document.fields?_record hall (by decide) (by decide)
    · have hall : (e.head ++ r).map Prod.fst = shape.names := by
        rw [List.map_append, h]
        rfl
      exact Document.fields?_record_names hall (by decide)
  have hkind : Document.variant? .json ErrorKind.named? (.text e.kind.variant) = some e.kind := by
    cases e.kind <;> rfl
  have hretry : Document.variant? .json Retry.named? (.text e.retry.variant) = some e.retry := by
    cases e.retry <;> rfl
  rw [ofDocument?, hfields]
  calc (do
      let kind ← Document.variant? .json ErrorKind.named? (.text e.kind.variant)
      let retry ← Document.variant? .json Retry.named? (.text e.retry.variant)
      let code ← ErrorCode.ofDocument? .json e.code.toJson.document
      let details ← Document.optional? Details.ofDocument? .empty r "metadata"
      pure (⟨kind, retry, code, e.message, details⟩ : Envelope))
    _ = some e := by rw [hkind, hretry, e.code.ofDocument?_document, hdetails]; rfl

lemma isWhole_toJson (e : Envelope) : e.toJson.IsWhole := by
  have hdetails : e.details.toJson.IsWhole := Details.fieldsWhole_strings _
  have hcode : e.code.toJson.IsWhole := ⟨trivial, trivial, trivial⟩
  rw [toJson]
  split
  · exact ⟨trivial, trivial, hcode, trivial, trivial⟩
  · exact ⟨trivial, trivial, hcode, trivial, hdetails, trivial⟩

lemma ofDocument?_document (e : Envelope) : ofDocument? .json e.toJson.document = some e := by
  rw [toJson]
  split
  · rename_i hempty
    refine ofDocument?_record (r := []) (.inl rfl) ?_
    have hnone : e.details = .empty := Details.ext_entries (List.isEmpty_iff.mp hempty)
    rw [hnone]
    rfl
  · exact ofDocument?_record (r := [("metadata", e.details.toJson.document)]) (.inr rfl)
      e.details.ofDocument?_document

end Envelope

/-! ### Storing -/

lemma Stored.kept_serviceName : serviceName.Kept := kept fun n => ⟨trivial, n.ofDocument?_text⟩

lemma Stored.kept_label (kind : NameKind) : (label kind).Kept :=
  kept fun l => ⟨trivial, l.ofDocument?_text⟩

lemma Stored.kept_descriptor : descriptor.Kept :=
  kept fun d => ⟨⟨trivial, trivial, trivial⟩, d.ofDocument?_document⟩

lemma Stored.kept_invokeState : invokeState.Kept :=
  kept fun s => ⟨⟨trivial, trivial, trivial⟩, s.ofDocument?_document⟩

lemma Stored.kept_envelope : envelope.Kept := kept fun e => ⟨e.isWhole_toJson, e.ofDocument?_document⟩

/-- **Storing keeps values, and reading does not get past parsing.** -/
theorem storedExactly : StoredExactly where
  serviceName := Stored.kept_serviceName
  label := Stored.kept_label
  descriptor := Stored.kept_descriptor
  invokeState := Stored.kept_invokeState
  envelope := Stored.kept_envelope
  parsed_serviceName := Stored.parsed_serviceName
  parsed_label := Stored.parsed_label
  parsed_descriptor := Stored.parsedBoth_descriptor
  parsed_invokeState := Stored.parsedBoth_invokeState
  trims_serviceName _ n hparse :=
    ⟨(ServiceName.parse_eq_ok_iff.mp hparse).symm, n.text_ne,
      ServiceName.qualified_iff.mpr ⟨n, rfl⟩⟩
  trims_label _ _ l hparse := ⟨(Label.parse_eq_ok_iff.mp hparse).symm, l.nonempty⟩
  parts_descriptor _ _ _ := ServiceDescriptor.parse_eq_ok_iff
  parts_invokeState _ _ _ := InvokeState.parse_eq_ok_iff

example : Stored.descriptor.rewrite? "[\" a.b:c\\t\", \"P \"]" =
    some "\x7b\"name\":\"a.b:c\",\"package\":\"P\"\x7d" := by decide +kernel

end CallWatch
