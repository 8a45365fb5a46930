import CallWatch.Html.Layout
import CallWatch.Proofs.Html.Reading

/-!
The language of renderings.

`Document` and `Content` are the texts that a rendered document and the content of a cell may
be, given by their forms and not by trees of markup. `Plain` texts are what stands between the
tags: no character of theirs belongs to a tag, and an ampersand begins a reference that is there
as a whole.
-/

namespace CallWatch.Html

/-- What is written for characters that markup has a use for. -/
def references : List (List Char) :=
  ["&amp;".toList, "&lt;".toList, "&gt;".toList, "&quot;".toList, "&#39;".toList]

structure Plain (cs : List Char) : Prop where
  quiet : ∀ c ∈ cs, c ≠ '<' ∧ c ≠ '>' ∧ c ≠ '"' ∧ c ≠ '\x27'
  ampersand : ∀ rest, '&' :: rest <:+ cs → ∃ r ∈ references, r <+: '&' :: rest

mutual

inductive Document : List Char → Prop
  | empty : Document "<table></table>".toList
  | table {rs : List Char} (h : Rows rs) :
    Document ("<table><tbody>".toList ++ rs ++ "</tbody></table>".toList)

inductive Row : List Char → Prop
  | row {k c : List Char} (hk : Plain k) (hc : Content c) :
    Row ("<tr><th>".toList ++ k ++ "</th><td>".toList ++ c ++ "</td></tr>".toList)

/-- One or more rows. -/
inductive Rows : List Char → Prop
  | one {r : List Char} (h : Row r) : Rows r
  | more {r rs : List Char} (h : Row r) (hs : Rows rs) : Rows (r ++ rs)

inductive Content : List Char → Prop
  | text {t : List Char} (h : Plain t) : Content t
  | italic {t : List Char} (h : Plain t) : Content ("<i>".toList ++ t ++ "</i>".toList)
  | document {d : List Char} (h : Document d) : Content d
  | emptyList : Content "<ol></ol>".toList
  | list {is : List Char} (h : Items is) : Content ("<ol>".toList ++ is ++ "</ol>".toList)

/-- One or more items. -/
inductive Items : List Char → Prop
  | one {c : List Char} (h : Content c) : Items ("<li>".toList ++ c ++ "</li>".toList)
  | more {c is : List Char} (h : Content c) (hs : Items is) :
    Items ("<li>".toList ++ c ++ "</li>".toList ++ is)

end

lemma escapeChar_cases (c : Char) :
    escapeChar c ∈ references ∨ c ≠ '&' ∧ escapeChar c = [c] := by
  unfold escapeChar
  split
  · exact .inl (by decide)
  · exact .inl (by decide)
  · exact .inl (by decide)
  · exact .inl (by decide)
  · exact .inl (by decide)
  · next hamp _ _ _ _ => exact .inr ⟨hamp, rfl⟩

lemma suffix_of_suffix_append {c : Char} {rest u v : List Char} (hc : c ∉ u)
    (h : c :: rest <:+ u ++ v) : c :: rest <:+ v := by
  induction u with
  | nil => exact h
  | cons d u ih =>
    rcases List.suffix_cons_iff.mp h with he | h
    · exact absurd (List.cons.inj he).1 (List.ne_of_not_mem_cons hc)
    · exact ih (List.not_mem_of_not_mem_cons hc) h

/-- A reference has one ampersand, and begins with it. -/
lemma prefix_or_suffix_of_reference {r rest cs : List Char} (hr : r ∈ references)
    (h : '&' :: rest <:+ r ++ cs) : r <+: '&' :: rest ∨ '&' :: rest <:+ cs := by
  have hone : ∀ r ∈ references, r = '&' :: r.tail ∧ '&' ∉ r.tail := by decide
  obtain ⟨hr, ht⟩ := hone r hr
  rw [hr, List.cons_append] at h
  rcases List.suffix_cons_iff.mp h with he | h
  · left
    rw [he, hr]
    exact ⟨cs, rfl⟩
  · exact .inr (suffix_of_suffix_append ht h)

lemma reference_of_suffix_escape {cs rest : List Char} (h : '&' :: rest <:+ escape cs) :
    ∃ r ∈ references, r <+: '&' :: rest := by
  induction cs with
  | nil => exact absurd (List.suffix_nil.mp h) (List.cons_ne_nil _ _)
  | cons c cs ih =>
    rw [escape_cons] at h
    rcases escapeChar_cases c with hr | ⟨hc, he⟩
    · exact (prefix_or_suffix_of_reference hr h).elim (fun hp => ⟨_, hr, hp⟩) ih
    · rw [he] at h
      exact ih (suffix_of_suffix_append (by simpa using Ne.symm hc) h)

lemma plain_escape (cs : List Char) : Plain (escape cs) :=
  ⟨fun _ h => quiet_of_mem_escape h, fun _ h => reference_of_suffix_escape h⟩

namespace Markup

lemma rows_rowsChars {r : List Char × Markup} {rs : List (List Char × Markup)}
    (h : ∀ x ∈ r :: rs, Content x.2.chars) : Rows (rowsChars (r :: rs)) := by
  obtain ⟨k, m⟩ := r
  have hrow := Row.row (plain_escape k) (h (k, m) List.mem_cons_self)
  induction rs generalizing k m with
  | nil =>
    rw [rowsChars_cons, rowsChars_nil, List.append_nil]
    exact .one hrow
  | cons r rs ih =>
    rw [rowsChars_cons]
    have hrest := fun x hx => h x (List.mem_cons_of_mem _ hx)
    exact .more hrow (ih r.1 r.2 hrest (.row (plain_escape r.1) (hrest r List.mem_cons_self)))

lemma items_itemsChars {m : Markup} {ms : List Markup} (h : ∀ x ∈ m :: ms, Content x.chars) :
    Items (itemsChars (m :: ms)) := by
  have hm := h m List.mem_cons_self
  induction ms generalizing m with
  | nil =>
    rw [itemsChars_cons, itemsChars_nil, List.append_nil]
    exact .one hm
  | cons m' ms ih =>
    rw [itemsChars_cons]
    have hrest := fun x hx => h x (List.mem_cons_of_mem _ hx)
    exact .more hm (ih hrest (hrest m' List.mem_cons_self))

lemma document_table {rows : List (List Char × Markup)} (h : ∀ r ∈ rows, Content r.2.chars) :
    Document (table rows).chars := by
  cases rows with
  | nil => exact .empty
  | cons r rs => exact .table (rows_rowsChars h)

mutual

/-- All markup is written as the content of a cell may be. -/
lemma content_chars : (m : Markup) → Content m.chars
  | .text cs => .text (plain_escape cs)
  | .italic cs => .italic (plain_escape cs)
  | .table rows => .document (document_table (content_rows rows))
  | .list [] => .emptyList
  | .list (m :: ms) => .list (items_itemsChars (content_items (m :: ms)))

lemma content_rows : (rows : List (List Char × Markup)) → ∀ r ∈ rows, Content r.2.chars
  | [] => List.forall_mem_nil _
  | (_, m) :: rows => List.forall_mem_cons.mpr ⟨content_chars m, content_rows rows⟩

lemma content_items : (items : List Markup) → ∀ m ∈ items, Content m.chars
  | [] => List.forall_mem_nil _
  | m :: items => List.forall_mem_cons.mpr ⟨content_chars m, content_items items⟩

end

end Markup

/-- **Renderings are well formed.** Every pipeline is rendered, whatever it holds and whatever
the limits are, and the rendering is a document of the grammar. Read back it is the layout of
the pipeline, so keys and values are in its texts and nothing of them is in its tags. -/
theorem render_wellFormed (o : RenderOptions) (p : Pipeline) :
    ∃ html, Renderer.html o p = .ok html ∧ Document html.toList ∧
      Markup.read? html.toList = some (layout o p) := by
  refine ⟨render o p, rfl, ?_, ?_⟩
  · rw [render, String.toList_ofList]
    exact Markup.document_table (Markup.content_rows _)
  · rw [render, String.toList_ofList]
    exact Markup.read?_chars _

end CallWatch.Html
