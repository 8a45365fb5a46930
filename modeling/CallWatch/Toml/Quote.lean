import CallWatch.Text.Numeral

/-!
How a text stands in TOML.

A text is written between quotes, basic ones with escapes or literal ones without, and on a
single line or, between three quotes on each side, as a block of lines. A printed text has the
first of the four forms that holds it without an escape; a text that has none of them is
written in a basic form, where the controls, the backslash and quotes that would end the text
are escaped.
-/

namespace CallWatch.Toml

open CallWatch.Text

/-- A quoted text is basic, with escapes, or literal, without. -/
inductive Quote where
  | basic
  | literal
  deriving DecidableEq

def Quote.char : Quote → Char
  | .basic => '"'
  | .literal => '\x27'

/-- Whether a quoted text ends with its line, or is a block of lines. -/
inductive Extent where
  | single
  | block
  deriving DecidableEq

def Extent.quotes : Extent → Nat
  | .single => 1
  | .block => 3

structure Form where
  quote : Quote
  extent : Extent

namespace Form

def delimiter (f : Form) : List Char := List.replicate f.extent.quotes f.quote.char

/-- A control that no form can hold as it is. -/
def isControl (c : Char) : Bool :=
  (c.toNat < 0x20 && c ≠ '\t' && c ≠ '\n') || c.toNat = 0x7f

/-- Whether a character stands three times in a row. -/
def hasTriple (q : Char) : List Char → Bool
  | a :: b :: c :: cs => (a = q && b = q && c = q) || hasTriple q (b :: c :: cs)
  | _ => false

/-- The form holds a text as it is. -/
def holds (f : Form) (cs : List Char) : Bool :=
  !cs.any isControl && (f.quote = .literal || !cs.contains '\\') &&
    match f.extent with
    | .single => !cs.contains f.quote.char && !cs.contains '\n'
    | .block => !hasTriple f.quote.char cs

/-- The four forms, the preferred one first. -/
def all : List Form :=
  [⟨.basic, .single⟩, ⟨.literal, .single⟩, ⟨.basic, .block⟩, ⟨.literal, .block⟩]

/-- The form in which a text is printed. -/
def ofText (cs : List Char) : Form :=
  (all.find? (·.holds cs)).getD ⟨.basic, if cs.contains '\n' then .block else .single⟩

def escapeChar (c : Char) : List Char :=
  if c = '"' then ['\\', '"']
  else if c = '\\' then ['\\', '\\']
  else if c = '\x08' then ['\\', 'b']
  else if c = '\t' then ['\\', 't']
  else if c = '\n' then ['\\', 'n']
  else if c = '\x0c' then ['\\', 'f']
  else if c = '\r' then ['\\', 'r']
  else if c.toNat < 0x20 ∨ c.toNat = 0x7f then '\\' :: 'u' :: Numeral.hexQuad true c.toNat
  else [c]

/-- The inside of a basic text after `run` quotes in a row: a block keeps its line breaks and
two quotes in a row. -/
def escapeFrom (e : Extent) (run : Nat) : List Char → List Char
  | [] => []
  | c :: cs =>
    if e = .block ∧ c = '"' ∧ run < 2 then c :: escapeFrom e (run + 1) cs
    else if e = .block ∧ c = '\n' then c :: escapeFrom e 0 cs
    else escapeChar c ++ escapeFrom e 0 cs

def inside (f : Form) (cs : List Char) : List Char :=
  match f.quote with
  | .basic => escapeFrom f.extent 0 cs
  | .literal => cs

/-- A block that holds a line break begins on a line of its own. -/
def write (f : Form) (cs : List Char) : List Char :=
  let lead := if f.extent = .block ∧ cs.contains '\n' then ['\n'] else []
  f.delimiter ++ lead ++ f.inside cs ++ f.delimiter

end Form

/-- A text as it is printed. -/
def textChars (cs : List Char) : List Char := (Form.ofText cs).write cs

end CallWatch.Toml
