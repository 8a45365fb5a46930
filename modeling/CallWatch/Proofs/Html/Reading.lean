import CallWatch.Html.Markup
import Mathlib.Tactic.Lemma
import Mathlib.Tactic.Common

/-!
Reading markup back from its text, in one pass.

The scan holds the elements that are open, innermost first, and what stands since the last tag.
The end of a cell gives the innermost element what the cell holds: the element that ended in it,
or else its text. The main statement is `read?_chars`: markup that has been written is read back
as it was, so nothing that a text says is taken for a tag.
-/

namespace CallWatch.Html

/-- The characters that an escaped text stands for. -/
def unescape : List Char → List Char
  | [] => []
  | '&' :: 'a' :: 'm' :: 'p' :: ';' :: cs => '&' :: unescape cs
  | '&' :: 'l' :: 't' :: ';' :: cs => '<' :: unescape cs
  | '&' :: 'g' :: 't' :: ';' :: cs => '>' :: unescape cs
  | '&' :: 'q' :: 'u' :: 'o' :: 't' :: ';' :: cs => '"' :: unescape cs
  | '&' :: '#' :: '3' :: '9' :: ';' :: cs => '\x27' :: unescape cs
  | c :: cs => c :: unescape cs

lemma escape_cons (c : Char) (cs : List Char) : escape (c :: cs) = escapeChar c ++ escape cs := rfl

lemma unescape_cons {c : Char} (h : c ≠ '&') (cs : List Char) :
    unescape (c :: cs) = c :: unescape cs := by
  conv_lhs => unfold unescape
  split <;> simp_all

lemma unescape_escapeChar (c : Char) (cs : List Char) :
    unescape (escapeChar c ++ cs) = c :: unescape cs := by
  unfold escapeChar
  split
  · rfl
  · rfl
  · rfl
  · rfl
  · rfl
  · next h _ _ _ _ => exact unescape_cons h cs

lemma unescape_escape (cs : List Char) : unescape (escape cs) = cs := by
  induction cs with
  | nil => rfl
  | cons c cs ih => rw [escape_cons, unescape_escapeChar, ih]

lemma quiet_of_mem_escapeChar {c d : Char} (h : d ∈ escapeChar c) :
    d ≠ '<' ∧ d ≠ '>' ∧ d ≠ '"' ∧ d ≠ '\x27' := by
  have hall : (escapeChar c).all
      (fun d => d != '<' && (d != '>' && (d != '"' && d != '\x27'))) = true := by
    unfold escapeChar
    split
    · rfl
    · rfl
    · rfl
    · rfl
    · rfl
    · simp_all
  simpa using List.all_eq_true.mp hall d h

lemma quiet_of_mem_escape {cs : List Char} {d : Char} (h : d ∈ escape cs) :
    d ≠ '<' ∧ d ≠ '>' ∧ d ≠ '"' ∧ d ≠ '\x27' := by
  obtain ⟨c, -, hd⟩ := List.mem_flatMap.mp h
  exact quiet_of_mem_escapeChar hd

inductive Element where
  | table | tbody | tr | th | td | ol | li | i
  deriving DecidableEq

def Element.name : Element → List Char
  | table => "table".toList
  | tbody => "tbody".toList
  | tr => "tr".toList
  | th => "th".toList
  | td => "td".toList
  | ol => "ol".toList
  | li => "li".toList
  | i => "i".toList

/-- A start tag or an end tag. -/
structure Tag where
  element : Element
  ends : Bool
  deriving DecidableEq

namespace Tag

def name (t : Tag) : List Char := if t.ends then '/' :: t.element.name else t.element.name

def all : List Tag :=
  [Element.table, .tbody, .tr, .th, .td, .ol, .li, .i].flatMap fun e => [⟨e, false⟩, ⟨e, true⟩]

def ofName? (cs : List Char) : Option Tag := all.find? fun t => t.name == cs

end Tag

/-- An element that has begun, with what it holds so far, latest first. -/
inductive Opened where
  | table (rows : List (List Char × Markup)) (heading : List Char)
  | list (items : List Markup)

structure Reading where
  opened : List Opened
  /-- The element that ended last in the cell. -/
  last : Option Markup
  /-- The text since the last tag, as written, latest character first. -/
  text : List Char
  /-- The tag that is being read, latest character first. -/
  tag : Option (List Char)

namespace Reading

/-- Where something begins. -/
def inside (fs : List Opened) : Reading := ⟨fs, none, [], none⟩

def plain (s : Reading) : List Char := unescape s.text.reverse

def content (s : Reading) : Markup := s.last.getD (.text s.plain)

/-- A tag has been read. -/
def take (s : Reading) (t : Tag) : Option Reading :=
  match t.element, t.ends, s.opened with
  | .table, false, fs => some (inside (.table [] [] :: fs))
  | .th, true, .table rows _ :: fs => some (inside (.table rows s.plain :: fs))
  | .td, true, .table rows k :: fs => some (inside (.table ((k, s.content) :: rows) [] :: fs))
  | .table, true, .table rows _ :: fs => some ⟨fs, some (.table rows.reverse), [], none⟩
  | .ol, false, fs => some (inside (.list [] :: fs))
  | .li, true, .list items :: fs => some (inside (.list (s.content :: items) :: fs))
  | .ol, true, .list items :: fs => some ⟨fs, some (.list items.reverse), [], none⟩
  | .i, true, fs => some ⟨fs, some (.italic s.plain), [], none⟩
  | .tbody, _, fs | .tr, _, fs | .th, false, fs | .td, false, fs | .li, false, fs
  | .i, false, fs => some (inside fs)
  | _, _, _ => none

def step (s : Reading) (c : Char) : Option Reading :=
  match s.tag with
  | none => some (if c = '<' then { s with tag := some [] } else { s with text := c :: s.text })
  | some seen =>
    if c = '>' then (Tag.ofName? seen.reverse).bind s.take
    else some { s with tag := some (c :: seen) }

def run (s : Reading) (cs : List Char) : Option Reading := cs.foldlM step s

lemma run_append (s : Reading) (u v : List Char) :
    run s (u ++ v) = (run s u).bind fun t => run t v := by
  simp [run, List.foldlM_append, bind]

/-- Nothing in a text begins a tag. -/
lemma run_text (s : Reading) (hs : s.tag = none) {cs : List Char} (h : '<' ∉ cs) :
    run s cs = some { s with text := cs.reverse ++ s.text } := by
  induction cs generalizing s with
  | nil => rfl
  | cons c cs ih =>
    have hc : c ≠ '<' := (List.ne_of_not_mem_cons h).symm
    have hstep : step s c = some { s with text := c :: s.text } := by
      simp [step, hs, hc]
    have hrun := ih { s with text := c :: s.text } hs (List.not_mem_of_not_mem_cons h)
    simpa [run, hstep] using hrun

lemma run_escape (s : Reading) (hs : s.tag = none) (cs : List Char) :
    run s (escape cs) = some { s with text := (escape cs).reverse ++ s.text } :=
  run_text s hs fun h => (quiet_of_mem_escape h).1 rfl

/-- Behind the content of a cell. -/
def behind (fs : List Opened) : Markup → Reading
  | .text cs => ⟨fs, none, (escape cs).reverse, none⟩
  | m => ⟨fs, some m, [], none⟩

lemma content_behind (fs : List Opened) (m : Markup) : (behind fs m).content = m := by
  cases m with
  | text cs => simp [behind, content, plain, unescape_escape]
  | italic cs => rfl
  | table rows => rfl
  | list items => rfl

/-- After an escaped text. -/
lemma run_escape_append (fs : List Opened) (cs rest : List Char) :
    run (inside fs) (escape cs ++ rest) = run (behind fs (.text cs)) rest := by
  rw [run_append, run_escape (inside fs) rfl]
  simp [behind, inside]

/-- The end of a heading. -/
lemma run_heading_end (rows : List (List Char × Markup)) (k k' : List Char) (fs : List Opened) :
    run (behind (.table rows k' :: fs) (.text k)) "</th><td>".toList =
      some (inside (.table rows k :: fs)) := by
  have hk : unescape (escape k).reverse.reverse = k := by rw [List.reverse_reverse, unescape_escape]
  conv_rhs => rw [← hk]
  rfl

lemma run_row_end (rows : List (List Char × Markup)) (k : List Char) (fs : List Opened)
    (m : Markup) : run (behind (.table rows k :: fs) m) "</td></tr>".toList =
      some (inside (.table ((k, m) :: rows) [] :: fs)) := by
  conv_rhs => rw [← content_behind (.table rows k :: fs) m]
  cases m <;> rfl

lemma run_item_end (items : List Markup) (fs : List Opened) (m : Markup) :
    run (behind (.list items :: fs) m) "</li>".toList =
      some (inside (.list (m :: items) :: fs)) := by
  conv_rhs => rw [← content_behind (.list items :: fs) m]
  cases m <;> rfl

mutual

lemma run_chars (fs : List Opened) : (m : Markup) → run (inside fs) m.chars = some (behind fs m)
  | .text cs => by
    rw [Markup.chars_text, ← List.append_nil (escape cs), run_escape_append]
    rfl
  | .italic cs => by
    have hcs : unescape (escape cs).reverse.reverse = cs := by
      rw [List.reverse_reverse, unescape_escape]
    have hstart : run (inside fs) "<i>".toList = some (inside fs) := rfl
    have hend : run (behind fs (.text cs)) "</i>".toList =
        some (behind fs (.italic (unescape (escape cs).reverse.reverse))) := rfl
    rw [Markup.chars_italic, List.append_assoc, run_append, hstart, Option.bind_some,
      run_escape_append, hend, hcs]
  | .table [] => rfl
  | .table (r :: rs) => by
    have hstart : run (inside fs) "<table><tbody>".toList =
      some (inside (.table [] [] :: fs)) := rfl
    have hend : run (inside (.table (r :: rs).reverse [] :: fs)) "</tbody></table>".toList =
        some (behind fs (.table (r :: rs).reverse.reverse)) := rfl
    rw [Markup.chars_table_cons, run_append, run_append, hstart, Option.bind_some,
      run_rowsChars fs [] (r :: rs), Option.bind_some, List.append_nil, hend, List.reverse_reverse]
  | .list xs => by
    have hstart : run (inside fs) "<ol>".toList = some (inside (.list [] :: fs)) := rfl
    have hend : run (inside (.list xs.reverse :: fs)) "</ol>".toList =
        some (behind fs (.list xs.reverse.reverse)) := rfl
    rw [Markup.chars_list, run_append, run_append, hstart, Option.bind_some,
      run_itemsChars fs [] xs, Option.bind_some, List.append_nil, hend, List.reverse_reverse]

lemma run_rowsChars (fs : List Opened) (done : List (List Char × Markup)) :
    (rows : List (List Char × Markup)) →
      run (inside (.table done [] :: fs)) (Markup.rowsChars rows) =
        some (inside (.table (rows.reverse ++ done) [] :: fs))
  | [] => rfl
  | (k, m) :: rows => by
    have hstart : run (inside (.table done [] :: fs)) "<tr><th>".toList =
        some (inside (.table done [] :: fs)) := rfl
    rw [Markup.rowsChars_cons, List.append_assoc, List.append_assoc, List.append_assoc,
      List.append_assoc, run_append, hstart, Option.bind_some, run_escape_append, run_append,
      run_heading_end, Option.bind_some, run_append, run_chars _ m, Option.bind_some, run_append,
      run_row_end, Option.bind_some, run_rowsChars fs ((k, m) :: done) rows]
    simp

lemma run_itemsChars (fs : List Opened) (done : List Markup) : (items : List Markup) →
    run (inside (.list done :: fs)) (Markup.itemsChars items) =
      some (inside (.list (items.reverse ++ done) :: fs))
  | [] => rfl
  | m :: items => by
    have hstart : run (inside (.list done :: fs)) "<li>".toList =
        some (inside (.list done :: fs)) := rfl
    rw [Markup.itemsChars_cons, List.append_assoc, List.append_assoc, run_append, hstart,
      Option.bind_some, run_append, run_chars _ m, Option.bind_some, run_append, run_item_end,
      Option.bind_some, run_itemsChars fs (m :: done) items]
    simp

end

/-- What has been read when nothing is open. -/
def finish? (s : Reading) : Option Markup :=
  match s.opened, s.tag with
  | [], none => some s.content
  | _, _ => none

end Reading

namespace Markup

/-- The markup that a text is the writing of. -/
def read? (cs : List Char) : Option Markup :=
  (Reading.run (.inside []) cs).bind Reading.finish?

/-- **Markup is read back as it was written.** -/
theorem read?_chars (m : Markup) : read? m.chars = some m := by
  have hfinish : (Reading.behind [] m).finish? = some (Reading.behind [] m).content := by
    cases m <;> rfl
  rw [read?, Reading.run_chars, Option.bind_some, hfinish, Reading.content_behind]

end Markup

end CallWatch.Html
