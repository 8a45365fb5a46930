import CallWatch.Json.Literal

/-!
The tokens of a JSON text, by a one-pass scan.

The scan stands between tokens, inside a word, a number or a string, or inside an escape of
a string. A character that does not continue a word or a number ends it and is then read as
the start of what follows.
-/

namespace CallWatch.Json

open CallWatch.Text

inductive Token where
  | beginArr | endArr | beginObj | endObj | comma | colon
  | null
  | bool (b : Bool)
  | number (n : NumberLiteral)
  | string (s : StringLiteral)

namespace Scan

/-- Where the scan stands; what it holds is in reverse order. -/
inductive Mode where
  | between
  | word (seen : List Char)
  | number (seen : List Char)
  | string (seen : List Piece)
  | escape (seen : List Piece)
  | unit (seen : List Piece) (left : Nat) (value : Nat)

structure State where
  tokens : List Token
  mode : Mode

def init : State := ⟨[], .between⟩

def isSpace (c : Char) : Bool := c = ' ' || c = '\n' || c = '\t' || c = '\r'

def isNumberChar (c : Char) : Bool :=
  c.isDigit || c = '-' || c = '+' || c = '.' || c = 'e' || c = 'E'

/-- The first character of a token, or a blank. -/
def start (ts : List Token) (c : Char) : Option State :=
  if isSpace c then some ⟨ts, .between⟩
  else if c = '"' then some ⟨ts, .string []⟩
  else if c = '[' then some ⟨.beginArr :: ts, .between⟩
  else if c = ']' then some ⟨.endArr :: ts, .between⟩
  else if c = '\x7b' then some ⟨.beginObj :: ts, .between⟩
  else if c = '\x7d' then some ⟨.endObj :: ts, .between⟩
  else if c = ',' then some ⟨.comma :: ts, .between⟩
  else if c = ':' then some ⟨.colon :: ts, .between⟩
  else if c.isDigit || c = '-' then some ⟨ts, .number [c]⟩
  else if c.isLower then some ⟨ts, .word [c]⟩
  else none

def wordToken? (seen : List Char) : Option Token :=
  match String.ofList seen.reverse with
  | "null" => some .null
  | "true" => some (.bool true)
  | "false" => some (.bool false)
  | _ => none

def numberToken? (seen : List Char) : Option Token :=
  (NumberLiteral.read? seen.reverse).map .number

def escaped? (c : Char) : Option Char :=
  match c with
  | '"' => some '"'
  | '\\' => some '\\'
  | '/' => some '/'
  | 'b' => some '\x08'
  | 'f' => some '\x0c'
  | 'n' => some '\n'
  | 'r' => some '\r'
  | 't' => some '\t'
  | _ => none

def step (s : State) (c : Char) : Option State :=
  match s.mode with
  | .between => start s.tokens c
  | .word seen =>
    if c.isLower then some ⟨s.tokens, .word (c :: seen)⟩
    else (wordToken? seen).bind fun t => start (t :: s.tokens) c
  | .number seen =>
    if isNumberChar c then some ⟨s.tokens, .number (c :: seen)⟩
    else (numberToken? seen).bind fun t => start (t :: s.tokens) c
  | .string seen =>
    if c = '"' then some ⟨.string seen.reverse :: s.tokens, .between⟩
    else if c = '\\' then some ⟨s.tokens, .escape seen⟩
    else if c.toNat < 0x20 then none
    else some ⟨s.tokens, .string (.char c :: seen)⟩
  | .escape seen =>
    if c = 'u' then some ⟨s.tokens, .unit seen 4 0⟩
    else (escaped? c).map fun d => ⟨s.tokens, .string (.char d :: seen)⟩
  | .unit seen left value =>
    (Numeral.hexValue? c).map fun d =>
      let n := 16 * value + d
      if left ≤ 1 then ⟨s.tokens, .string (.unit n :: seen)⟩
      else ⟨s.tokens, .unit seen (left - 1) n⟩

def run (s : State) (cs : List Char) : Option State := cs.foldlM step s

/-- The tokens in order, unless the text ends inside a string. -/
def finish? (s : State) : Option (List Token) :=
  match s.mode with
  | .between => some s.tokens.reverse
  | .word seen => (wordToken? seen).map fun t => (t :: s.tokens).reverse
  | .number seen => (numberToken? seen).map fun t => (t :: s.tokens).reverse
  | _ => none

theorem run_append (s : State) (u v : List Char) :
    run s (u ++ v) = (run s u).bind fun t => run t v := by
  simp [run, List.foldlM_append, bind]

end Scan

/-- The tokens of a text, if it consists of tokens and blanks. -/
def tokens? (cs : List Char) : Option (List Token) :=
  (Scan.run Scan.init cs).bind Scan.finish?

end CallWatch.Json
