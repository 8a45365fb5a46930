import CallWatch.Proofs.Html.Limits

/-!
How deep the elements of a rendering stand in one another.

The depth is counted on the text: it is the greatest number of elements that are open at one place.
Documents are cut off at their limit, so they add to it only up to a bound. Lists are not cut off,
and each of them adds its two elements (`nesting_render_le`); with enough lists in one another the
depth exceeds every bound that the limits might set.
-/

namespace CallWatch.Html

/-- The greatest number of elements that are open at one place of a text, with `n` open before
it. -/
def nesting (n : Nat) : List Char → Nat
  | [] => n
  | '<' :: '/' :: cs => max n (nesting (n - 1) cs)
  | '<' :: cs => nesting (n + 1) cs
  | _ :: cs => nesting n cs

end CallWatch.Html

namespace CallWatch.Json

mutual

/-- How many lists stand inside one another in a value, documents between them or not. -/
def listDepth : Json → Nat
  | arr xs => itemsListDepth xs + 1
  | obj fields => fieldsListDepth fields
  | _ => 0

def itemsListDepth : List Json → Nat
  | [] => 0
  | v :: rest => max (listDepth v) (itemsListDepth rest)

def fieldsListDepth : List (String × Json) → Nat
  | [] => 0
  | (_, v) :: rest => max (listDepth v) (fieldsListDepth rest)

end

/-- A list in a list, and so on, with `n` lists around the innermost. -/
def nestedLists : Nat → Json
  | 0 => .arr []
  | n + 1 => .arr [nestedLists n]

end CallWatch.Json

namespace CallWatch.Html

open CallWatch.Text

/-! ### Counting along a text -/

lemma nesting_cons {c : Char} (hc : c ≠ '<') (n : Nat) (cs : List Char) :
    nesting n (c :: cs) = nesting n cs := by
  conv_lhs => unfold nesting
  split <;> simp_all

lemma le_nesting (n : Nat) (cs : List Char) : n ≤ nesting n cs := by
  fun_induction nesting n cs with
  | case1 => exact Nat.le_refl _
  | case2 n cs ih => exact Nat.le_max_left _ _
  | case3 n cs _ ih => omega
  | case4 n c cs _ _ ih => exact ih

lemma nesting_quiet (n : Nat) {cs : List Char} (h : '<' ∉ cs) (rest : List Char) :
    nesting n (cs ++ rest) = nesting n rest := by
  induction cs with
  | nil => rfl
  | cons c cs ih =>
    rw [List.cons_append, nesting_cons (List.ne_of_not_mem_cons h).symm,
      ih (List.not_mem_of_not_mem_cons h)]

lemma nesting_escape (n : Nat) (cs rest : List Char) :
    nesting n (escape cs ++ rest) = nesting n rest :=
  nesting_quiet n (fun h => (quiet_of_mem_escape h).1 rfl) rest

mutual

/-- Markup is open as deep as it is. -/
lemma nesting_chars (n : Nat) (rest : List Char) : (m : Markup) →
    nesting n (m.chars ++ rest) = max (n + m.depth) (nesting n rest)
  | .text cs => by
    have hle := le_nesting n rest
    rw [Markup.chars_text, nesting_escape, Markup.depth, Nat.add_zero, Nat.max_eq_right hle]
  | .italic cs => by
    have hstart (cs : List Char) : nesting n ("<i>".toList ++ cs) = nesting (n + 1) cs := rfl
    have hend (cs : List Char) :
      nesting (n + 1) ("</i>".toList ++ cs) = max (n + 1) (nesting n cs) := rfl
    rw [Markup.chars_italic, List.append_assoc, List.append_assoc, hstart, nesting_escape, hend,
      Markup.depth]
  | .table [] => by
    have htag : nesting n ("<table></table>".toList ++ rest) = max (n + 1) (nesting n rest) := rfl
    rw [Markup.chars_table_nil, htag, Markup.depth]
  | .table (r :: rs) => by
    have hstart (cs : List Char) :
      nesting n ("<table><tbody>".toList ++ cs) = nesting (n + 2) cs := rfl
    have hend : nesting (n + 2) ("</tbody></table>".toList ++ rest) =
      max (n + 2) (max (n + 1) (nesting n rest)) := rfl
    rw [Markup.chars_table_cons, List.append_assoc, List.append_assoc, hstart,
      nesting_rowsChars, hend, Markup.depth]
    omega
  | .list xs => by
    have hstart (cs : List Char) : nesting n ("<ol>".toList ++ cs) = nesting (n + 1) cs := rfl
    have hend : nesting (n + 1) ("</ol>".toList ++ rest) = max (n + 1) (nesting n rest) := rfl
    rw [Markup.chars_list, List.append_assoc, List.append_assoc, hstart, nesting_itemsChars, hend,
      Markup.depth]
    omega

lemma nesting_rowsChars (n : Nat) (rest : List Char) : (rows : List (List Char × Markup)) →
    nesting n (Markup.rowsChars rows ++ rest) = max (n + Markup.rowsDepth rows) (nesting n rest)
  | [] => by
    have hle := le_nesting n rest
    rw [Markup.rowsChars_nil, List.nil_append, Markup.rowsDepth, Nat.add_zero,
      Nat.max_eq_right hle]
  | (k, m) :: rows => by
    have hstart (cs : List Char) : nesting n ("<tr><th>".toList ++ cs) = nesting (n + 2) cs := rfl
    have hcell (cs : List Char) : nesting (n + 2) ("</th><td>".toList ++ cs) =
      max (n + 2) (nesting (n + 2) cs) := rfl
    have hend (cs : List Char) : nesting (n + 2) ("</td></tr>".toList ++ cs) =
      max (n + 2) (max (n + 1) (nesting n cs)) := rfl
    rw [Markup.rowsChars_cons]
    simp only [List.append_assoc]
    rw [hstart, nesting_escape, hcell, nesting_chars, hend, nesting_rowsChars, Markup.rowsDepth]
    omega

lemma nesting_itemsChars (n : Nat) (rest : List Char) : (items : List Markup) →
    nesting n (Markup.itemsChars items ++ rest) =
      max (n + Markup.itemsDepth items) (nesting n rest)
  | [] => by
    have hle := le_nesting n rest
    rw [Markup.itemsChars_nil, List.nil_append, Markup.itemsDepth, Nat.add_zero,
      Nat.max_eq_right hle]
  | m :: items => by
    have hstart (cs : List Char) : nesting n ("<li>".toList ++ cs) = nesting (n + 1) cs := rfl
    have hend (cs : List Char) : nesting (n + 1) ("</li>".toList ++ cs) =
      max (n + 1) (nesting n cs) := rfl
    rw [Markup.itemsChars_cons]
    simp only [List.append_assoc]
    rw [hstart, nesting_chars, hend, nesting_itemsChars, Markup.itemsDepth]
    omega

end

/-- The depth of a rendering is that of its layout. -/
lemma nesting_render (o : RenderOptions) (p : Pipeline) :
    nesting 0 (render o p).toList = (layout o p).depth := by
  have hchars := nesting_chars 0 [] (layout o p)
  rw [List.append_nil, Nat.zero_add, nesting, Nat.max_zero] at hchars
  rw [render, String.toList_ofList, hchars]

/-! ### Documents and lists -/

lemma itemsDepth_append_singleton (items : List Markup) (m : Markup) :
    Markup.itemsDepth (items ++ [m]) = max (Markup.itemsDepth items) (m.depth + 1) := by
  induction items with
  | nil => simp [Markup.itemsDepth]
  | cons m' items ih => rw [List.cons_append, Markup.itemsDepth, ih, Markup.itemsDepth,
      Nat.max_assoc]

lemma depth_omission (n : Nat) (what : String) : (omission n what).depth = 1 := rfl

mutual

/-- A document adds four elements and a list two; only the documents are limited. -/
lemma depth_content (o : RenderOptions) {d : Nat} (hd : d ≤ o.maxDepth) : (v : Json) →
    4 * d + (content o d v).depth ≤ 4 * o.maxDepth + 2 * v.listDepth + 1
  | .null | .bool _ | .int _ | .float _ | .str _ => by
    simp only [content, Markup.depth]
    omega
  | .obj fields => by
    rw [content, Json.listDepth]
    split
    · rw [depth_omission]
      omega
    · next hdeep =>
      have hrows := rowsDepth_rows o (d := d + 1) (by omega) fields
      cases hfields : rows o (d + 1) fields with
      | nil =>
        rw [Markup.depth]
        omega
      | cons r rs =>
        rw [hfields] at hrows
        rw [Markup.depth]
        omega
  | .arr xs => by
    have hitems := itemsDepth_items o hd o.maxArrayItems xs
    rw [content, Markup.depth, Json.listDepth]
    split
    · omega
    · rw [itemsDepth_append_singleton, depth_omission]
      omega

lemma rowsDepth_rows (o : RenderOptions) {d : Nat} (hd : d ≤ o.maxDepth) :
    (fields : List (String × Json)) → 4 * d + Markup.rowsDepth (rows o d fields) ≤
      4 * o.maxDepth + 2 * Json.fieldsListDepth fields + 3
  | [] => by
    rw [rows, Markup.rowsDepth]
    omega
  | (_, v) :: rest => by
    have hv := depth_content o hd v
    have hrest := rowsDepth_rows o hd rest
    rw [rows, Markup.rowsDepth, Json.fieldsListDepth]
    omega

lemma itemsDepth_items (o : RenderOptions) {d : Nat} (hd : d ≤ o.maxDepth) :
    (n : Nat) → (xs : List Json) → 4 * d + Markup.itemsDepth (items o d n xs) ≤
      4 * o.maxDepth + 2 * Json.itemsListDepth xs + 2
  | _, [] => by
    rw [items, Markup.itemsDepth]
    omega
  | 0, _ :: _ => by
    rw [items, Markup.itemsDepth]
    omega
  | n + 1, v :: rest => by
    have hv := depth_content o hd v
    have hrest := itemsDepth_items o hd n rest
    rw [items, Markup.itemsDepth, Json.itemsListDepth]
    omega

end

lemma nesting_render_le (o : RenderOptions) (p : Pipeline) : nesting 0 (render o p).toList ≤
    4 * o.maxDepth + 2 * p.toJson.listDepth + 1 := by
  have hdepth := depth_content o (Nat.zero_le _) p.toJson
  rwa [← layout_eq_content, ← nesting_render, Nat.mul_zero, Nat.zero_add] at hdepth

/-! ### Lists in lists -/

lemma depth_nestedLists (o : RenderOptions) (d n : Nat) :
    (content o d (Json.nestedLists n)).depth = 2 * n + 1 := by
  induction n with
  | zero =>
    rw [Json.nestedLists, content, List.length_nil, if_pos (Nat.zero_le _), Markup.depth, items,
      Markup.itemsDepth]
  | succ n ih =>
    have hroom : 1 ≤ o.maxArrayItems := o.maxArrayItems_pos
    have hitems : items o d o.maxArrayItems [Json.nestedLists n] =
        [content o d (Json.nestedLists n)] := by
      rw [items_eq_map, List.take_of_length_le hroom, List.map_singleton]
    rw [Json.nestedLists, content, List.length_singleton, if_pos hroom, hitems, Markup.depth,
      Markup.itemsDepth, Markup.itemsDepth, ih]
    omega

/-- A pipeline of one entry, which is a list with `n` lists around it. -/
def nestedPipeline (n : Nat) : Pipeline := Pipeline.ofPairs [("a", Json.nestedLists n)]

lemma nesting_nestedPipeline (o : RenderOptions) (n : Nat) :
    nesting 0 (render o (nestedPipeline n)).toList = 2 * n + 5 := by
  have hlayout : layout o (nestedPipeline n) =
      .table [("a".toList, content o 1 (Json.nestedLists n))] := rfl
  rw [nesting_render, hlayout, Markup.depth, Markup.rowsDepth, Markup.rowsDepth,
    depth_nestedLists]
  omega

/-- **Only documents are cut off.** Whatever the limits are, the depth of a rendering is bounded by
the limit on documents together with the depth of the lists; and as nothing limits the lists, the
rendering of a pipeline can be deeper than any number. -/
theorem nesting_bounded_by_lists (o : RenderOptions) :
    (∀ p : Pipeline, ∃ html, Renderer.html o p = .ok html ∧
      nesting 0 html.toList ≤ 4 * o.maxDepth + 2 * p.toJson.listDepth + 1) ∧
      ∀ bound : Nat, ∃ (p : Pipeline) (html : String), Renderer.html o p = .ok html ∧
        bound < nesting 0 html.toList := by
  refine ⟨fun p => ⟨render o p, rfl, nesting_render_le o p⟩, fun bound => ?_⟩
  refine ⟨nestedPipeline bound, render o (nestedPipeline bound), rfl, ?_⟩
  rw [nesting_nestedPipeline]
  omega

/-- No bound holds for all pipelines, not even under the standard limits. -/
theorem no_bound_on_nesting : ¬∃ bound : Nat, ∀ (p : Pipeline) (html : String),
    Renderer.html .standard p = .ok html → nesting 0 html.toList ≤ bound := by
  rintro ⟨bound, hbound⟩
  have hnesting := hbound (nestedPipeline bound) _ rfl
  rw [nesting_nestedPipeline] at hnesting
  omega

end CallWatch.Html
