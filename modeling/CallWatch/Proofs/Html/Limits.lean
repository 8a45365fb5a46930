import CallWatch.Html.Layout
import CallWatch.Proofs.Html.Reading
import Mathlib.Tactic.Common

/-!
What the limits of a rendering cut off, and what they leave.

A place of a rendering is a value of the pipeline that is shown, together with the markup that
shows it and the number of documents around it. Places are found from the outside: the rows of a
table belong to the entries of its document, in their order, and the first elements of a list
to the first items. At every place the limits decide what is shown of the value itself; what is
in it is shown at places of its own. Documents add to the depth of what is in them, lists do not.
-/

namespace CallWatch.Html

open CallWatch.Text

/-! ### Tables in tables -/

namespace Markup

mutual

/-- How many tables stand inside one another at the deepest place. -/
def tableDepth : Markup → Nat
  | text _ => 0
  | italic _ => 0
  | table rows => rowsTableDepth rows + 1
  | list items => itemsTableDepth items

def rowsTableDepth : List (List Char × Markup) → Nat
  | [] => 0
  | (_, m) :: rows => max (tableDepth m) (rowsTableDepth rows)

def itemsTableDepth : List Markup → Nat
  | [] => 0
  | m :: items => max (tableDepth m) (itemsTableDepth items)

end

lemma itemsTableDepth_append_singleton (items : List Markup) (m : Markup) :
    itemsTableDepth (items ++ [m]) = max (itemsTableDepth items) m.tableDepth := by
  induction items with
  | nil => simp [itemsTableDepth]
  | cons m' items ih => rw [List.cons_append, itemsTableDepth, ih, itemsTableDepth,
      Nat.max_assoc]

end Markup

lemma tableDepth_omission (n : Nat) (what : String) : (omission n what).tableDepth = 0 := rfl

mutual

lemma tableDepth_content (o : RenderOptions) {d : Nat} (hd : d ≤ o.maxDepth) : (v : Json) →
    d + (content o d v).tableDepth ≤ o.maxDepth
  | .null | .bool _ | .int _ | .float _ | .str _ => hd
  | .obj fields => by
    rw [content]
    split
    · rwa [tableDepth_omission]
    · next hdeep =>
      have hrows := rowsTableDepth_rows o (d := d + 1) (by omega) fields
      rw [Markup.tableDepth]
      omega
  | .arr xs => by
    have hitems := itemsTableDepth_items o hd o.maxArrayItems xs
    rw [content, Markup.tableDepth]
    split
    · exact hitems
    · rwa [Markup.itemsTableDepth_append_singleton, tableDepth_omission, Nat.max_zero]

lemma rowsTableDepth_rows (o : RenderOptions) {d : Nat} (hd : d ≤ o.maxDepth) :
    (fields : List (String × Json)) →
      d + Markup.rowsTableDepth (rows o d fields) ≤ o.maxDepth
  | [] => hd
  | (_, v) :: rest => by
    have hv := tableDepth_content o hd v
    have hrest := rowsTableDepth_rows o hd rest
    rw [rows, Markup.rowsTableDepth]
    omega

lemma itemsTableDepth_items (o : RenderOptions) {d : Nat} (hd : d ≤ o.maxDepth) :
    (n : Nat) → (xs : List Json) → d + Markup.itemsTableDepth (items o d n xs) ≤ o.maxDepth
  | _, [] => hd
  | 0, _ :: _ => hd
  | n + 1, v :: rest => by
    have hv := tableDepth_content o hd v
    have hrest := itemsTableDepth_items o hd n rest
    rw [items, Markup.itemsTableDepth]
    omega

end

/-! ### Places -/

/-- A value that is shown in a rendering of `root`, the markup that shows it, and how many
documents there are around it. -/
inductive Place (o : RenderOptions) (root : Json) (tree : Markup) : Nat → Json → Markup → Prop
  | whole : Place o root tree 0 root tree
  | entry {d i : Nat} {fields : List (String × Json)} {rows : List (List Char × Markup)}
      {k : String} {v : Json} {heading : List Char} {m : Markup}
      (hp : Place o root tree d (.obj fields) (.table rows))
      (hv : fields[i]? = some (k, v)) (hm : rows[i]? = some (heading, m)) :
      Place o root tree (d + 1) v m
  | item {d i : Nat} {xs : List Json} {ms : List Markup} {v : Json} {m : Markup}
      (hp : Place o root tree d (.arr xs) (.list ms)) (hi : i < o.maxArrayItems)
      (hv : xs[i]? = some v) (hm : ms[i]? = some m) :
      Place o root tree d v m

/-- An ellipsis and a word, with the decimal numeral of `n` between them. -/
def Marker (n : Nat) (what : String) (m : Markup) : Prop :=
  ∃ numeral : List Char, numeral ≠ [] ∧ (∀ c ∈ numeral, c.isDigit = true) ∧
    Numeral.value numeral = n ∧
    m = .italic ([ellipsis, ' '] ++ numeral ++ [' '] ++ what.toList)

/-- The first elements of a list, and a marker when there are more. -/
def FirstItems (most : Nat) (xs : List Json) (m : Markup) : Prop :=
  ∃ shown marks, m = .list (shown ++ marks) ∧ shown.length = min xs.length most ∧
    if most < xs.length then ∃ mark, marks = [mark] ∧ Marker (xs.length - most) "more" mark
    else marks = []

/-- The keys of a document in their order, one a row. -/
def AllKeys (fields : List (String × Json)) (m : Markup) : Prop :=
  ∃ rows, m = .table rows ∧ rows.map Prod.fst = fields.map fun f => f.1.toList

/-- What is shown of a value with `d` documents around it. -/
def Shown (o : RenderOptions) (d : Nat) (v : Json) (m : Markup) : Prop :=
  match v with
  | .null => m = .italic "null".toList
  | .str s =>
    m = .text (s.toList.take (min s.length o.maxValueChars) ++
      if o.maxValueChars < s.length then [ellipsis] else [])
  | .arr xs => FirstItems o.maxArrayItems xs m
  | .obj fields =>
    if d < o.maxDepth then AllKeys fields m else Marker fields.length "keys" m
  | v => m = .text v.scalarChars

/-! ### What is shown at a place -/

lemma rows_eq_map (o : RenderOptions) (d : Nat) (fields : List (String × Json)) :
    rows o d fields = fields.map fun f => (f.1.toList, content o d f.2) := by
  induction fields with
  | nil => rfl
  | cons f fields ih => rw [rows, ih, List.map_cons]

lemma items_eq_map (o : RenderOptions) (d n : Nat) (xs : List Json) :
    items o d n xs = (xs.take n).map (content o d) := by
  induction xs generalizing n with
  | nil => rw [items, List.take_nil, List.map_nil]
  | cons v xs ih =>
    cases n with
    | zero => rfl
    | succ n => rw [items, ih, List.take_succ_cons, List.map_cons]

/-- The outermost document is never too deep. -/
lemma layout_eq_content (o : RenderOptions) (p : Pipeline) :
    layout o p = content o 0 p.toJson := by
  have hdepth := o.maxDepth_pos
  rw [Pipeline.toJson, content, if_neg (by omega), layout]

/-- The elements of a list begin with those of its first items. -/
lemma getElem?_list {o : RenderOptions} {d i : Nat} {xs : List Json} {ms : List Markup} {v : Json}
    (hms : .list ms = content o d (.arr xs)) (hi : i < o.maxArrayItems) (hv : xs[i]? = some v) :
    ms[i]? = some (content o d v) := by
  have hshown : (items o d o.maxArrayItems xs)[i]? = some (content o d v) := by
    rw [items_eq_map, List.getElem?_map, List.getElem?_take_of_lt hi, hv, Option.map_some]
  rw [content] at hms
  rw [Markup.list.inj hms]
  split
  · exact hshown
  · rwa [List.getElem?_append_left (List.getElem?_eq_some_iff.mp hshown).1]

lemma getElem?_table {o : RenderOptions} {d i : Nat} {fields : List (String × Json)}
    {rs : List (List Char × Markup)} {k : String} {v : Json}
    (hrs : .table rs = content o d (.obj fields)) (hv : fields[i]? = some (k, v)) :
    rs[i]? = some (k.toList, content o (d + 1) v) := by
  rw [content] at hrs
  split at hrs
  · contradiction
  · rw [Markup.table.inj hrs, rows_eq_map, List.getElem?_map, hv, Option.map_some]

lemma eq_content_of_place {o : RenderOptions} {p : Pipeline} {d : Nat} {v : Json} {m : Markup}
    (h : Place o p.toJson (layout o p) d v m) : m = content o d v := by
  induction h with
  | whole => exact layout_eq_content o p
  | entry _ hv hm ih =>
    have hrow := getElem?_table ih hv
    rw [hm, Option.some_inj] at hrow
    exact (Prod.mk.inj hrow).2
  | item _ hi hv hm ih =>
    have hitem := getElem?_list ih hi hv
    rwa [hm, Option.some_inj] at hitem

/-! ### What the limits leave of a value -/

lemma cut_eq (n : Nat) (s : String) :
    cut n s.toList = s.toList.take (min s.length n) ++ if n < s.length then [ellipsis] else [] := by
  rw [cut, String.length_toList]
  rcases Nat.lt_or_ge n s.length with h | h
  · rw [if_neg (by omega), if_pos h, Nat.min_eq_right (by omega)]
  · rw [if_pos h, if_neg (by omega), Nat.min_eq_left h, List.append_nil, ← String.length_toList,
      List.take_length]

lemma marker_omission (n : Nat) (what : String) : Marker n what (omission n what) := by
  refine ⟨Numeral.digits n, Numeral.digits_ne_nil n,
    fun c hc => Numeral.isDigit_of_mem_digits hc, Numeral.value_digits n, ?_⟩
  simp [omission]

lemma firstItems_content (o : RenderOptions) (d : Nat) (xs : List Json) :
    FirstItems o.maxArrayItems xs (content o d (.arr xs)) := by
  have hlength : (items o d o.maxArrayItems xs).length = min xs.length o.maxArrayItems := by
    rw [items_eq_map, List.length_map, List.length_take, Nat.min_comm]
  rw [content]
  rcases Nat.lt_or_ge o.maxArrayItems xs.length with h | h
  · refine ⟨_, [omission (xs.length - o.maxArrayItems) "more"], ?_, hlength, ?_⟩
    · rw [if_neg (by omega)]
    · rw [if_pos h]
      exact ⟨_, rfl, marker_omission _ _⟩
  · refine ⟨_, [], ?_, hlength, ?_⟩
    · rw [if_pos h, List.append_nil]
    · rw [if_neg (by omega)]

lemma allKeys_table (o : RenderOptions) (d : Nat) (fields : List (String × Json)) :
    AllKeys fields (.table (rows o d fields)) := by
  refine ⟨_, rfl, ?_⟩
  rw [rows_eq_map, List.map_map]
  rfl

lemma shown_content (o : RenderOptions) (d : Nat) (v : Json) : Shown o d v (content o d v) := by
  cases v with
  | null | bool _ | int _ | float _ => rfl
  | str s => exact congrArg Markup.text (cut_eq o.maxValueChars s)
  | arr xs => exact firstItems_content o d xs
  | obj fields =>
    unfold Shown
    dsimp only
    rcases Nat.lt_or_ge d o.maxDepth with h | h
    · rw [if_pos h, content, if_neg (by omega)]
      exact allKeys_table o (d + 1) fields
    · rw [if_neg (by omega), content, if_pos h]
      exact marker_omission _ _

/-- **The limits are kept, and nothing else is left out.** Every pipeline is rendered. In the
markup that is read back from the text no more tables stand inside one another than documents
are allowed to, and at every place the limits leave exactly what they have room for: of a
string its first characters, with an ellipsis if there are more; of a list its first items, with
a marker for the number of the others if there are any; of a document all keys, or if it is too
deep only their number. -/
theorem render_limited (o : RenderOptions) (p : Pipeline) :
    ∃ html tree, Renderer.html o p = .ok html ∧ Markup.read? html.toList = some tree ∧
      tree.tableDepth ≤ o.maxDepth ∧
      ∀ d v m, Place o p.toJson tree d v m → Shown o d v m := by
  refine ⟨render o p, layout o p, rfl, ?_, ?_, fun d v m h => ?_⟩
  · rw [render, String.toList_ofList]
    exact Markup.read?_chars _
  · have hdepth := tableDepth_content o (Nat.zero_le _) p.toJson
    rwa [← layout_eq_content, Nat.zero_add] at hdepth
  · rw [eq_content_of_place h]
    exact shown_content o d v

end CallWatch.Html
