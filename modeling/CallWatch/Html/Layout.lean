import CallWatch.Html.Markup
import CallWatch.Html.Options
import CallWatch.Json.Printer
import CallWatch.Pipeline

/-!
Pipelines laid out as HTML.

A document becomes a table and a list an ordered list. Long strings, long lists and deep
documents are cut off and marked with an ellipsis; lists do not count towards the depth.
-/

namespace CallWatch.Html

open CallWatch.Text

def ellipsis : Char := '…'

/-- The first `n` characters, followed by an ellipsis when there are more. -/
def cut (n : Nat) (cs : List Char) : List Char :=
  if cs.length ≤ n then cs else cs.take n ++ [ellipsis]

/-- An ellipsis and what has been left out. -/
def omission (n : Nat) (what : String) : Markup :=
  .italic (ellipsis :: ' ' :: Numeral.digits n ++ ' ' :: what.toList)

variable (o : RenderOptions)

mutual

/-- The content of a cell in a document at depth `depth`, the outermost being at depth 1. -/
def content (depth : Nat) : Json → Markup
  | .null => .italic "null".toList
  | .str s => .text (cut o.maxValueChars s.toList)
  | .obj fields =>
    if o.maxDepth ≤ depth then omission fields.length "keys"
    else .table (rows (depth + 1) fields)
  | .arr xs =>
    let shown := items depth o.maxArrayItems xs
    .list (if xs.length ≤ o.maxArrayItems then shown
      else shown ++ [omission (xs.length - o.maxArrayItems) "more"])
  | v => .text v.scalarChars

def rows (depth : Nat) : List (String × Json) → List (List Char × Markup)
  | [] => []
  | (k, v) :: rest => (k.toList, content depth v) :: rows depth rest

/-- The contents of at most `n` items. -/
def items (depth n : Nat) : List Json → List Markup
  | [] => []
  | v :: rest => match n with
    | 0 => []
    | n + 1 => content depth v :: items depth n rest

end

def layout (p : Pipeline) : Markup := .table (rows o 1 p.entries)

def render (p : Pipeline) : String := String.ofList (layout o p).chars

end CallWatch.Html

namespace CallWatch

/-- A renderer answers the same for the same pipeline, and may fail. -/
abbrev Renderer := Pipeline → Except RenderError String

def Renderer.html (o : RenderOptions) : Renderer := fun p => .ok (Html.render o p)

/-- The renderer whose every write is refused. -/
def Renderer.refusing : Renderer := fun _ => .error .refusedWrite

end CallWatch
