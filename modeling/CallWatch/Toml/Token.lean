import CallWatch.Toml.Quote

/-!
The tokens of a TOML text, by a one-pass scan.

Words, blanks and quoted texts are tokens whatever they stand for; comments are none. Three
quotes open a text that may go over several lines, and up to two quotes may stand before the
three that close it. The scan refuses lone carriage returns and, in comments and quoted texts,
control characters and unknown escapes.
-/

namespace CallWatch.Toml

open CallWatch.Text

inductive Token where
  | newline
  | blank (cs : List Char)
  | dot | equals | comma
  | beginList | endList
  | beginTable | endTable
  | word (cs : List Char)
  /-- A quoted text; only one that is written on a single line may name something. -/
  | text (cs : List Char) (single : Bool)

namespace Scan

/-- Where the scan stands; what it holds is in reverse order. -/
inductive Mode where
  | between
  | carriage
  | word (seen : List Char)
  | blank (seen : List Char)
  | comment
  /-- One or two quotes have been read, and the text may be a block. -/
  | opened (q : Quote) (count : Nat)
  /-- A line break right after the opening of a block is not part of it. -/
  | blockStart (q : Quote) (carriage : Bool)
  | inside (q : Quote) (e : Extent) (seen : List Char)
  /-- Inside a block, after some quotes that may close it. -/
  | closing (q : Quote) (count : Nat) (seen : List Char)
  | blockCarriage (q : Quote) (seen : List Char)
  | escape (e : Extent) (seen : List Char)
  | code (e : Extent) (seen : List Char) (left value : Nat)
  /-- After a backslash at the end of a line, up to the next solid character. -/
  | continued (seen : List Char) (broken carriage : Bool)

structure State where
  tokens : List Token
  mode : Mode

def init : State := ⟨[], .between⟩

def isBlank (c : Char) : Bool := c = ' ' || c = '\t'

/-- A character that may stand in a comment or a literal text. -/
def isPlain (c : Char) : Bool := c = '\t' || (0x20 ≤ c.toNat && c.toNat ≠ 0x7f)

def punctuation? (c : Char) : Option Token :=
  match c with
  | '.' => some .dot
  | '=' => some .equals
  | ',' => some .comma
  | '[' => some .beginList
  | ']' => some .endList
  | '\x7b' => some .beginTable
  | '\x7d' => some .endTable
  | _ => none

/-- The first character of a token, of a comment or of a line break. -/
def start (ts : List Token) (c : Char) : State :=
  match punctuation? c with
  | some t => ⟨t :: ts, .between⟩
  | none =>
    if c = '\n' then ⟨.newline :: ts, .between⟩
    else if c = '\r' then ⟨ts, .carriage⟩
    else if c = '#' then ⟨ts, .comment⟩
    else if c = '"' then ⟨ts, .opened .basic 1⟩
    else if c = '\x27' then ⟨ts, .opened .literal 1⟩
    else if isBlank c then ⟨ts, .blank [c]⟩
    else ⟨ts, .word [c]⟩

/-- A word goes on up to a mark, a blank, a comment or the end of the line; a quote inside it is
part of it. -/
def isWordChar (c : Char) : Bool :=
  (punctuation? c).isNone && !isBlank c && c ≠ '\n' && c ≠ '\r' && c ≠ '#'

/-- The end of a quoted text that has been read in reverse. -/
def close (ts : List Token) (e : Extent) (seen : List Char) : State :=
  ⟨.text seen.reverse (e = .single) :: ts, .between⟩

/-- A character inside a quoted text that is not a quote. -/
def body (ts : List Token) (q : Quote) (e : Extent) (seen : List Char) (c : Char) :
    Option State :=
  if c = '\\' ∧ q = .basic then some ⟨ts, .escape e seen⟩
  else if c = '\n' ∧ e = .block then some ⟨ts, .inside q e (c :: seen)⟩
  else if c = '\r' ∧ e = .block then some ⟨ts, .blockCarriage q seen⟩
  else if isPlain c then some ⟨ts, .inside q e (c :: seen)⟩
  else none

def inside (ts : List Token) (q : Quote) (e : Extent) (seen : List Char) (c : Char) :
    Option State :=
  if c = q.char then
    match e with
    | .single => some (close ts e seen)
    | .block => some ⟨ts, .closing q 1 seen⟩
  else body ts q e seen c

def escaped? (c : Char) : Option Char :=
  match c with
  | 'b' => some '\x08'
  | 't' => some '\t'
  | 'n' => some '\n'
  | 'f' => some '\x0c'
  | 'r' => some '\r'
  | 'e' => some '\x1b'
  | '"' => some '"'
  | '\\' => some '\\'
  | _ => none

/-- How many digits follow an escape that names a character by its number. -/
def codeDigits? (c : Char) : Option Nat :=
  match c with
  | 'x' => some 2
  | 'u' => some 4
  | 'U' => some 8
  | _ => none

def escape (ts : List Token) (e : Extent) (seen : List Char) (c : Char) : Option State :=
  match codeDigits? c, escaped? c with
  | some n, _ => some ⟨ts, .code e seen n 0⟩
  | none, some d => some ⟨ts, .inside .basic e (d :: seen)⟩
  | none, none =>
    if e = .single then none
    else if isBlank c then some ⟨ts, .continued seen false false⟩
    else if c = '\n' then some ⟨ts, .continued seen true false⟩
    else if c = '\r' then some ⟨ts, .continued seen true true⟩
    else none

/-- A digit of an escape that names a character by its number. -/
def code (ts : List Token) (e : Extent) (seen : List Char) (left value : Nat) (c : Char) :
    Option State :=
  (Numeral.hexValue? c).bind fun d =>
    let n := 16 * value + d
    if 1 < left then some ⟨ts, .code e seen (left - 1) n⟩
    else if n.isValidChar then some ⟨ts, .inside .basic e (Char.ofNat n :: seen)⟩
    else none

def continued (ts : List Token) (seen : List Char) (broken carriage : Bool) (c : Char) :
    Option State :=
  if carriage then
    if c = '\n' then some ⟨ts, .continued seen broken false⟩ else none
  else if isBlank c then some ⟨ts, .continued seen broken false⟩
  else if c = '\n' then some ⟨ts, .continued seen true false⟩
  else if c = '\r' then some ⟨ts, .continued seen true true⟩
  else if broken then inside ts .basic .block seen c
  else none

/-- A character after quotes that may close a block: five are two and the closing three. -/
def closing (ts : List Token) (q : Quote) (count : Nat) (seen : List Char) (c : Char) :
    Option State :=
  if c = q.char then
    if count = 4 then some (close ts .block (q.char :: q.char :: seen))
    else some ⟨ts, .closing q (count + 1) seen⟩
  else if 3 ≤ count then
    let s := close ts .block (List.replicate (count - 3) q.char ++ seen)
    some (start s.tokens c)
  else body ts q .block (List.replicate count q.char ++ seen) c

def blockStart (ts : List Token) (q : Quote) (carriage : Bool) (c : Char) : Option State :=
  if c = '\n' then some ⟨ts, .inside q .block []⟩
  else if carriage then none
  else if c = '\r' then some ⟨ts, .blockStart q true⟩
  else inside ts q .block [] c

def opened (ts : List Token) (q : Quote) (count : Nat) (c : Char) : Option State :=
  if c = q.char then
    if count = 1 then some ⟨ts, .opened q 2⟩ else some ⟨ts, .blockStart q false⟩
  else if count = 1 then inside ts q .single [] c
  else some (start (.text [] true :: ts) c)

def step (s : State) (c : Char) : Option State :=
  let ts := s.tokens
  match s.mode with
  | .between => some (start ts c)
  | .carriage => if c = '\n' then some ⟨.newline :: ts, .between⟩ else none
  | .word seen =>
    if isWordChar c then some ⟨ts, .word (c :: seen)⟩
    else some (start (.word seen.reverse :: ts) c)
  | .blank seen =>
    if isBlank c then some ⟨ts, .blank (c :: seen)⟩
    else some (start (.blank seen.reverse :: ts) c)
  | .comment =>
    if c = '\n' then some ⟨.newline :: ts, .between⟩
    else if c = '\r' then some ⟨ts, .carriage⟩
    else if isPlain c then some ⟨ts, .comment⟩
    else none
  | .opened q count => opened ts q count c
  | .blockStart q carriage => blockStart ts q carriage c
  | .inside q e seen => inside ts q e seen c
  | .closing q count seen => closing ts q count seen c
  | .blockCarriage q seen =>
    if c = '\n' then some ⟨ts, .inside q .block ('\n' :: '\r' :: seen)⟩ else none
  | .escape e seen => escape ts e seen c
  | .code e seen left value => code ts e seen left value c
  | .continued seen broken carriage => continued ts seen broken carriage c

def run (s : State) (cs : List Char) : Option State := cs.foldlM step s

/-- The tokens in order, unless the text ends inside a quoted text or a line break. -/
def finish? (s : State) : Option (List Token) :=
  match s.mode with
  | .between | .comment => some s.tokens.reverse
  | .word seen => some (.word seen.reverse :: s.tokens).reverse
  | .blank seen => some (.blank seen.reverse :: s.tokens).reverse
  | .opened _ 2 => some (.text [] true :: s.tokens).reverse
  | .closing q count seen =>
    if 3 ≤ count then
      some (close s.tokens .block (List.replicate (count - 3) q.char ++ seen)).tokens.reverse
    else none
  | _ => none

theorem run_append (s : State) (u v : List Char) :
    run s (u ++ v) = (run s u).bind fun t => run t v := by
  simp [run, List.foldlM_append, bind]

end Scan

/-- A mark at the very beginning that tells the order of the bytes is not part of the text. -/
def dropMark : List Char → List Char
  | '\ufeff' :: cs => cs
  | cs => cs

/-- The tokens of a text. -/
def tokens? (cs : List Char) : Option (List Token) :=
  (Scan.run Scan.init (dropMark cs)).bind Scan.finish?

end CallWatch.Toml
