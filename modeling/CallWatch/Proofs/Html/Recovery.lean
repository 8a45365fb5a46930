import CallWatch.Html.Layout
import CallWatch.Proofs.Html.Reading

/-!
What can be recovered from a rendering.

A value is shown with every boolean and every number as the string of its printed form. Within
the limits of the rendering, which count the characters of a string, the items of a list and the
documents on a path, nothing else is lost: `decode?` gives the shown document back.
-/

namespace CallWatch

namespace Json

mutual

/-- The values in a value, itself among them. -/
def values : Json → List Json
  | arr xs => arr xs :: itemsValues xs
  | obj fields => obj fields :: fieldsValues fields
  | v => [v]

def itemsValues : List Json → List Json
  | [] => []
  | v :: rest => values v ++ itemsValues rest

def fieldsValues : List (String × Json) → List Json
  | [] => []
  | (_, v) :: rest => values v ++ fieldsValues rest

end

mutual

/-- How many documents the path passes through that passes through the most. -/
def documents : Json → Nat
  | arr xs => itemsDocuments xs
  | obj fields => fieldsDocuments fields + 1
  | _ => 0

def itemsDocuments : List Json → Nat
  | [] => 0
  | v :: rest => max (documents v) (itemsDocuments rest)

def fieldsDocuments : List (String × Json) → Nat
  | [] => 0
  | (_, v) :: rest => max (documents v) (fieldsDocuments rest)

end

mutual

/-- The value with every boolean and every number as the string of its printed form. -/
def shown : Json → Json
  | null => null
  | str s => str s
  | arr xs => arr (itemsShown xs)
  | obj fields => obj (fieldsShown fields)
  | v => str (String.ofList v.scalarChars)

def itemsShown : List Json → List Json
  | [] => []
  | v :: rest => shown v :: itemsShown rest

def fieldsShown : List (String × Json) → List (String × Json)
  | [] => []
  | (k, v) :: rest => (k, shown v) :: fieldsShown rest

end

lemma keys_fieldsShown (fields : List (String × Json)) :
    Record.keys (fieldsShown fields) = Record.keys fields := by
  induction fields with
  | nil => rfl
  | cons f fields ih =>
    rw [fieldsShown, Record.keys, List.map_cons, ← Record.keys, ih]
    rfl

end Json

/-- No limit is exceeded by the values, nor by a path through so many documents. -/
structure RenderOptions.HasRoom (o : RenderOptions) (documents : Nat) (values : List Json) :
    Prop where
  strings : ∀ s, .str s ∈ values → s.length ≤ o.maxValueChars
  lists : ∀ xs, .arr xs ∈ values → xs.length ≤ o.maxArrayItems
  documents : documents ≤ o.maxDepth

/-- Every string, every list and every path in the pipeline is within the limits. -/
def Pipeline.Within (o : RenderOptions) (p : Pipeline) : Prop :=
  o.HasRoom p.toJson.documents p.toJson.values

/-- Whether the value itself, not what is in it, is within the limits. -/
def RenderOptions.admits (o : RenderOptions) : Json → Bool
  | .str s => s.length ≤ o.maxValueChars
  | .arr xs => xs.length ≤ o.maxArrayItems
  | _ => true

lemma RenderOptions.hasRoom_iff {o : RenderOptions} {n : Nat} {vs : List Json} :
    o.HasRoom n vs ↔ n ≤ o.maxDepth ∧ ∀ v ∈ vs, o.admits v = true := by
  constructor
  · intro h
    refine ⟨h.documents, fun v hv => ?_⟩
    cases v with
    | str s => exact decide_eq_true (h.strings s hv)
    | arr xs => exact decide_eq_true (h.lists xs hv)
    | null | bool _ | int _ | float _ | obj _ => rfl
  · rintro ⟨hn, hvs⟩
    exact ⟨fun s hs => of_decide_eq_true (hvs _ hs), fun xs hxs => of_decide_eq_true (hvs _ hxs),
      hn⟩

instance (o : RenderOptions) (n : Nat) (vs : List Json) : Decidable (o.HasRoom n vs) :=
  decidable_of_iff _ RenderOptions.hasRoom_iff.symm

instance (o : RenderOptions) (p : Pipeline) : Decidable (p.Within o) :=
  inferInstanceAs (Decidable (o.HasRoom p.toJson.documents p.toJson.values))

lemma RenderOptions.HasRoom.mono {o : RenderOptions} {n m : Nat} {vs ws : List Json}
    (h : o.HasRoom n vs) (hm : m ≤ n) (hs : ws ⊆ vs) : o.HasRoom m ws :=
  ⟨fun s hw => h.strings s (hs hw), fun xs hw => h.lists xs (hs hw), Nat.le_trans hm h.documents⟩

namespace Html

namespace Markup

mutual

/-- The value that a cell shows, if nothing has been left out there. -/
def toJson? : Markup → Option Json
  | text cs => some (.str (String.ofList cs))
  | italic cs => if cs = "null".toList then some .null else none
  | table rows => (rowsJson? rows).map .obj
  | list items => (itemsJson? items).map .arr

def rowsJson? : List (List Char × Markup) → Option (List (String × Json))
  | [] => some []
  | (k, m) :: rows => match toJson? m, rowsJson? rows with
    | some v, some fields => some ((String.ofList k, v) :: fields)
    | _, _ => none

def itemsJson? : List Markup → Option (List Json)
  | [] => some []
  | m :: items => match toJson? m, itemsJson? items with
    | some v, some vs => some (v :: vs)
    | _, _ => none

end

end Markup

/-- The document that a rendering shows. -/
def decode? (html : String) : Option Json := (Markup.read? html.toList).bind Markup.toJson?

lemma cut_of_length_le {n : Nat} {s : String} (h : s.length ≤ n) : cut n s.toList = s.toList := by
  rw [cut, if_pos]
  rwa [String.length_toList]

mutual

lemma toJson?_content (o : RenderOptions) (depth : Nat) : (v : Json) →
    o.HasRoom (depth + v.documents) v.values → (content o depth v).toJson? = some v.shown
  | .null, _ => rfl
  | .bool _, _ => rfl
  | .int _, _ => rfl
  | .float _, _ => rfl
  | .str s, h => by
    have hs : s.length ≤ o.maxValueChars := h.strings s List.mem_cons_self
    rw [content, Markup.toJson?, cut_of_length_le hs, String.ofList_toList, Json.shown]
  | .obj fields, h => by
    have hdepth : depth + (Json.fieldsDocuments fields + 1) ≤ o.maxDepth := h.documents
    have hfields := rowsJson?_rows o (depth + 1) fields
      (h.mono (by rw [Json.documents]; omega) (List.subset_cons_self _ _))
    rw [content, if_neg (by omega), Markup.toJson?, hfields, Json.shown]
    rfl
  | .arr xs, h => by
    have hlength : xs.length ≤ o.maxArrayItems := h.lists xs List.mem_cons_self
    have hitems := itemsJson?_items o depth _ xs hlength
      (h.mono (Nat.le_refl _) (List.subset_cons_self _ _))
    rw [content, if_pos hlength, Markup.toJson?, hitems, Json.shown]
    rfl

lemma rowsJson?_rows (o : RenderOptions) (depth : Nat) : (fields : List (String × Json)) →
    o.HasRoom (depth + Json.fieldsDocuments fields) (Json.fieldsValues fields) →
      Markup.rowsJson? (rows o depth fields) = some (Json.fieldsShown fields)
  | [], _ => rfl
  | (k, v) :: rest, h => by
    rw [Json.fieldsDocuments] at h
    have hv := toJson?_content o depth v (h.mono (by omega) (List.subset_append_left _ _))
    have hrest := rowsJson?_rows o depth rest (h.mono (by omega) (List.subset_append_right _ _))
    rw [rows, Markup.rowsJson?, hv, hrest, String.ofList_toList, Json.fieldsShown]

lemma itemsJson?_items (o : RenderOptions) (depth : Nat) : (n : Nat) → (xs : List Json) →
    xs.length ≤ n → o.HasRoom (depth + Json.itemsDocuments xs) (Json.itemsValues xs) →
      Markup.itemsJson? (items o depth n xs) = some (Json.itemsShown xs)
  | _, [], _, _ => rfl
  | 0, _ :: _, hn, _ => absurd hn (Nat.not_succ_le_zero _)
  | n + 1, v :: rest, hn, h => by
    rw [Json.itemsDocuments] at h
    have hv := toJson?_content o depth v (h.mono (by omega) (List.subset_append_left _ _))
    have hrest := itemsJson?_items o depth n rest (Nat.le_of_succ_le_succ hn)
      (h.mono (by omega) (List.subset_append_right _ _))
    rw [items, Markup.itemsJson?, hv, hrest, Json.itemsShown]

end

lemma decode?_render {o : RenderOptions} {p : Pipeline} (h : p.Within o) :
    decode? (render o p) = some p.toJson.shown := by
  have hdocuments : 1 + Json.fieldsDocuments p.entries ≤ p.toJson.documents := by
    rw [Pipeline.toJson, Json.documents]
    omega
  have hrows := rowsJson?_rows o 1 p.entries
    (RenderOptions.HasRoom.mono h hdocuments (List.subset_cons_self _ _))
  rw [decode?, render, String.toList_ofList, Markup.read?_chars, Option.bind_some, layout,
    Markup.toJson?, hrows, Pipeline.toJson, Json.shown]
  rfl

/-- **Within its limits a rendering loses nothing but the kinds of scalars.** The shown document
can be decoded from it, so two pipelines with one rendering have the same keys in the same order
and show the same document. -/
theorem render_recoverable (o : RenderOptions) {p q : Pipeline} (hp : p.Within o)
    (hq : q.Within o) :
    decode? (render o p) = some p.toJson.shown ∧
      (render o p = render o q → p.keys = q.keys ∧ p.toJson.shown = q.toJson.shown) := by
  refine ⟨decode?_render hp, fun he => ?_⟩
  have hshown : p.toJson.shown = q.toJson.shown := by
    have hdecode := decode?_render hp
    rw [he, decode?_render hq] at hdecode
    exact (Option.some.inj hdecode).symm
  refine ⟨?_, hshown⟩
  rw [Pipeline.toJson, Pipeline.toJson, Json.shown, Json.shown] at hshown
  have hkeys := congrArg Record.keys (Json.obj.inj hshown)
  rwa [Json.keys_fieldsShown, Json.keys_fieldsShown] at hkeys

/-- Two pipelines with one rendering: a key and a string that look like markup, an empty
document, a null, and a boolean that is shown as a string is. -/
theorem render_recoverable_markup :
    let o := RenderOptions.standard
    let list := Json.arr [.str "<i>null</i>", .null, .obj []]
    let p := Pipeline.ofPairs [("</th>", list), ("&amp;", .bool true)]
    let q := Pipeline.ofPairs [("</th>", list), ("&amp;", .str "true")]
    (p.Within o ∧ q.Within o ∧ render o p = render o q) ∧
      decode? (render o p) = some q.toJson ∧ p.toJson.shown = q.toJson := by
  intro o list p q
  have hp : p.Within o := by decide
  have hq : q.Within o := by decide
  have he : render o p = render o q := rfl
  have h := render_recoverable o hp hq
  exact ⟨⟨hp, hq, he⟩, h.1, (h.2 he).2⟩

end Html

end CallWatch
