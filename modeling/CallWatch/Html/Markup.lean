/-!
Trees of the few HTML elements that a report needs, and their text.

A table is a list of rows with a heading and a content each; a list is an ordered list.
Headings and texts are escaped when they are written, so no character of theirs can be taken
for markup.
-/

namespace CallWatch.Html

inductive Markup where
  | text (cs : List Char)
  | italic (cs : List Char)
  | table (rows : List (List Char × Markup))
  | list (items : List Markup)

def escapeChar (c : Char) : List Char :=
  match c with
  | '&' => "&amp;".toList
  | '<' => "&lt;".toList
  | '>' => "&gt;".toList
  | '"' => "&quot;".toList
  | '\x27' => "&#39;".toList
  | c => [c]

def escape (cs : List Char) : List Char := cs.flatMap escapeChar

namespace Markup

mutual

def chars : Markup → List Char
  | text cs => escape cs
  | italic cs => "<i>".toList ++ escape cs ++ "</i>".toList
  | table [] => "<table></table>".toList
  | table (r :: rs) =>
    "<table><tbody>".toList ++ rowsChars (r :: rs) ++ "</tbody></table>".toList
  | list xs => "<ol>".toList ++ itemsChars xs ++ "</ol>".toList

def rowsChars : List (List Char × Markup) → List Char
  | [] => []
  | (k, m) :: rows =>
    "<tr><th>".toList ++ escape k ++ "</th><td>".toList ++ chars m ++ "</td></tr>".toList
      ++ rowsChars rows

def itemsChars : List Markup → List Char
  | [] => []
  | m :: items => "<li>".toList ++ chars m ++ "</li>".toList ++ itemsChars items

end

theorem chars_text (cs : List Char) : (text cs).chars = escape cs := rfl

theorem chars_italic (cs : List Char) :
    (italic cs).chars = "<i>".toList ++ escape cs ++ "</i>".toList := rfl

theorem chars_table_nil : (table []).chars = "<table></table>".toList := rfl

theorem chars_table_cons (r : List Char × Markup) (rs : List (List Char × Markup)) :
    (table (r :: rs)).chars =
      "<table><tbody>".toList ++ rowsChars (r :: rs) ++ "</tbody></table>".toList := rfl

theorem chars_list (xs : List Markup) :
    (list xs).chars = "<ol>".toList ++ itemsChars xs ++ "</ol>".toList := rfl

theorem rowsChars_nil : rowsChars [] = [] := rfl

theorem rowsChars_cons (k : List Char) (m : Markup) (rows : List (List Char × Markup)) :
    rowsChars ((k, m) :: rows) =
      "<tr><th>".toList ++ escape k ++ "</th><td>".toList ++ chars m ++ "</td></tr>".toList
        ++ rowsChars rows := rfl

theorem itemsChars_nil : itemsChars [] = [] := rfl

theorem itemsChars_cons (m : Markup) (items : List Markup) :
    itemsChars (m :: items) =
      "<li>".toList ++ chars m ++ "</li>".toList ++ itemsChars items := rfl

mutual

/-- How many elements stand inside one another at the deepest place. Inside a table and
its body, a row is an element and so are its cells. -/
def depth : Markup → Nat
  | text _ => 0
  | italic _ => 1
  | table [] => 1
  | table (r :: rs) => rowsDepth (r :: rs) + 2
  | list xs => itemsDepth xs + 1

def rowsDepth : List (List Char × Markup) → Nat
  | [] => 0
  | (_, m) :: rows => max (depth m + 2) (rowsDepth rows)

def itemsDepth : List Markup → Nat
  | [] => 0
  | m :: items => max (depth m + 1) (itemsDepth items)

end

end Markup

end CallWatch.Html
