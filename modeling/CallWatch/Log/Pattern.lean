import CallWatch.Text.Blank
import CallWatch.Text.Letter
import CallWatch.Text.Numeral

/-!
Patterns for the values of fields.

A directive may ask for the value of a field by a regular expression, and here it only counts
whether a text is one. A pattern has groups and alternatives, repetitions, assertions, classes
in brackets and escapes. Flags hold to the end of the group in which they are set. With the
flag `u`, which is set at first, characters are those of Unicode, but no tables of them are at
hand: then there are no classes by letter, no edges of words, and case counts.
Without it every class consists of ASCII characters. Of the parts of a pattern the reader keeps
their heights, since they may nest only so deep.
-/

namespace CallWatch.Pattern

open CallWatch.Text

/-- The flags that decide what is allowed. -/
structure Flags where
  /-- Upper and lower case are the same. -/
  caseless : Bool
  unicode : Bool
  /-- Blanks and comments do not count. -/
  spaced : Bool

namespace Flags

def init : Flags := ⟨false, true, false⟩

def names : List Char := ['i', 'm', 's', 'U', 'u', 'R', 'x']

def set (f : Flags) (name : Char) (on : Bool) : Flags :=
  match name with
  | 'i' => { f with caseless := on }
  | 'u' => { f with unicode := on }
  | 'x' => { f with spaced := on }
  | _ => f

/-- The flags after a question mark, up to the mark that ends them, which for the flags of a
group is a colon; what has been seen of them is in reverse order. -/
def read (f : Flags) (seen : List Char) : List Char → Option (Flags × Bool × List Char)
  | [] => none
  | c :: cs =>
    if c = ':' ∨ c = ')' then
      if seen.head? = some '-' ∨ (c = ')' ∧ seen = []) then none
      else some (f, c = ':', cs)
    else if seen.contains c then none
    else if c = '-' then read f (c :: seen) cs
    else if names.contains c then read (f.set c (!seen.contains '-')) (c :: seen) cs
    else none

end Flags

/-- Past blanks and comments, where they do not count. -/
def skipFrom (inComment : Bool) : List Char → List Char
  | [] => []
  | c :: cs =>
    if inComment then skipFrom (c ≠ '\n') cs
    else if isBlank c then skipFrom false cs
    else if c = '#' then skipFrom true cs
    else c :: cs

def skip (f : Flags) (cs : List Char) : List Char := if f.spaced then skipFrom false cs else cs

/-! ### Escapes -/

/-- What one character or one escape stands for. -/
inductive Atom where
  /-- A character by its code, perhaps written as a byte. -/
  | literal (code : Nat) (byte : Bool)
  /-- A class by its letter, such as the digits. -/
  | named (negated : Bool)
  /-- A position in the text; at the edge of a word it takes a table to tell. -/
  | position (ofWord : Bool)

/-- The digits of an escape that names a character by its code. -/
def code? (f : Flags) : Nat → Nat → List Char → Option (Nat × List Char)
  | 0, n, cs => if n.isValidChar then some (n, cs) else none
  | k + 1, n, cs => match skip f cs with
    | [] => none
    | c :: cs => (Numeral.hexValue? c).bind fun d => code? f k (16 * n + d) cs

/-- How many digits follow an escape that names a character by its code. -/
def codeDigits? (c : Char) : Option Nat :=
  match c with
  | 'x' => some 2
  | 'u' => some 4
  | 'U' => some 8
  | _ => none

/-- An ASCII character that is no letter or digit stands for itself after a backslash. -/
def isEscapable (c : Char) : Bool :=
  c.toNat < 0x80 && !c.isAlphanum && c ≠ '<' && c ≠ '>'

def letter? (c : Char) : Option Atom :=
  match c with
  | 'd' | 's' | 'w' => some (.named false)
  | 'D' | 'S' | 'W' => some (.named true)
  | 'a' => some (.literal 0x7 false)
  | 't' => some (.literal 0x9 false)
  | 'n' => some (.literal 0xa false)
  | 'v' => some (.literal 0xb false)
  | 'f' => some (.literal 0xc false)
  | 'r' => some (.literal 0xd false)
  | 'A' | 'z' => some (.position false)
  | 'b' | 'B' | '<' | '>' => some (.position true)
  | _ => none

/-- What follows a backslash. -/
def escape? (f : Flags) : List Char → Option (Atom × List Char)
  | [] => none
  | c :: cs => match codeDigits? c with
    | some k => (code? f k 0 cs).map fun p => (.literal p.1 (c = 'x'), p.2)
    | none =>
      if isEscapable c then some (.literal c.toNat false, cs)
      else (letter? c).map fun a => (a, cs)

def atom? (f : Flags) : List Char → Option (Atom × List Char)
  | [] => none
  | c :: cs => if c = '\\' then escape? f cs else some (.literal c.toNat false, cs)

def Atom.allowed (f : Flags) : Atom → Bool
  | literal n byte => if f.unicode then !f.caseless else !(byte && 0x80 ≤ n)
  | named negated => !f.unicode && !negated
  | position _ => true

/-- The edge of a word of Unicode letters can be written, but is not supported. -/
def Atom.isWordEdge (f : Flags) : Atom → Bool
  | position ofWord => f.unicode && ofWord
  | _ => false

/-- Whether an atom may stand inside brackets. -/
def Atom.allowedInClass (f : Flags) : Atom → Bool
  | literal n _ => if f.unicode then !f.caseless else n < 0x80
  | named negated => !f.unicode && !negated
  | position _ => false

/-! ### Classes -/

/-- A single character, or a range of them up to another. -/
def range? (f : Flags) (cs : List Char) : Option (List Char) :=
  (atom? f cs).bind fun (a, cs) =>
    let rest := skip f cs
    let alone := if a.allowedInClass f then some rest else none
    match rest with
    | '-' :: cs =>
      let upper := skip f cs
      if upper.head? = some ']' ∨ upper.head? = some '-' then alone
      else (atom? f upper).bind fun (b, cs) => match a, b with
        | .literal m _, .literal n _ =>
          if m ≤ n ∧ a.allowedInClass f ∧ b.allowedInClass f then some cs else none
        | _, _ => none
    | _ => alone

def classNames : List String :=
  ["alnum", "alpha", "ascii", "blank", "cntrl", "digit", "graph", "lower", "print", "punct",
    "space", "upper", "word", "xdigit"]

/-- What follows a class of ASCII characters by name, as in `:alpha:]`; whether it is negated. -/
def namedClass? : List Char → Option (Bool × List Char)
  | ':' :: cs =>
    let negated := cs.head? = some '^'
    let cs := if negated then cs.drop 1 else cs
    match cs.dropWhile (· ≠ ':') with
    | ':' :: ']' :: rest =>
      if classNames.contains (String.ofList (cs.takeWhile (· ≠ ':'))) then some (negated, rest)
      else none
    | _ => none
  | _ => none

def namedClassAllowed (f : Flags) (negated : Bool) : Bool :=
  if f.unicode then !f.caseless else !negated

/-! ### Reading -/

/-- The height of parts side by side: several of them are a level of their own. -/
def rowHeight : List Nat → Nat
  | [] => 0
  | [h] => h
  | hs => hs.foldl max 0 + 1

/-- An open class: what its latest operator has on the left, and the items after it. -/
structure Class where
  left : Option Nat
  items : List Nat

namespace Class

def empty : Class := ⟨none, []⟩

def height (c : Class) : Nat :=
  match c.left with
  | none => rowHeight c.items
  | some l => max l (rowHeight c.items) + 1

def add (c : Class) (h : Nat) : Class := { c with items := h :: c.items }

/-- After an operator. -/
def operated (c : Class) : Class := ⟨some c.height, []⟩

end Class

/-- An open group: its finished alternatives, and the elements of the latest one. -/
structure Group where
  flags : Flags
  alternatives : List Nat
  elements : List Nat

namespace Group

def height (g : Group) : Nat := rowHeight (rowHeight g.elements :: g.alternatives)

def add (g : Group) (h : Nat) : Group := { g with elements := h :: g.elements }

/-- The latest element is repeated. -/
def repeated (g : Group) : Group :=
  match g.elements with
  | h :: hs => { g with elements := (h + 1) :: hs }
  | [] => g

def nextAlternative (g : Group) : Group :=
  { g with alternatives := rowHeight g.elements :: g.alternatives, elements := [] }

end Group

/-- Where the reader stands. -/
inductive Place where
  /-- Outside of brackets, and whether something comes before that can be repeated. -/
  | outside (operand : Bool)
  /-- At the beginning of a class, where dashes stand for themselves, and a closing bracket
  too if it comes first; with the classes around it. -/
  | classStart (first : Bool) (c : Class) (around : List Class)
  | inClass (c : Class) (around : List Class)

structure State where
  group : Group
  /-- The groups around it. -/
  around : List Group
  /-- The names of groups. -/
  names : List String
  /-- An edge of a word has been asked for that is not supported. -/
  wordEdge : Bool
  place : Place

namespace State

def init : State := ⟨⟨.init, [], []⟩, [], [], false, .outside false⟩

def flags (s : State) : Flags := s.group.flags

def goTo (s : State) (p : Place) : State := { s with place := p }

/-- After an element of the group. -/
def took (s : State) (height : Nat) : State :=
  { s with group := s.group.add height, place := .outside true }

/-- After an opening bracket. -/
def openClass (s : State) (around : List Class) (cs : List Char) : Option (State × List Char) :=
  match skip s.flags cs with
  | '^' :: cs =>
    if s.flags.unicode then some (s.goTo (.classStart true .empty around), cs) else none
  | cs => some (s.goTo (.classStart true .empty around), cs)

def closeClass (s : State) (c : Class) : List Class → State
  | [] => s.took (c.height + 1)
  | outer :: more => s.goTo (.inClass (outer.add (c.height + 1)) more)

def stepInClass (s : State) (c : Class) (around : List Class) :
    List Char → Option (State × List Char)
  | ']' :: cs => some (s.closeClass c around, cs)
  | '&' :: '&' :: cs | '-' :: '-' :: cs | '~' :: '~' :: cs =>
    some (s.goTo (.inClass c.operated around), cs)
  | '[' :: cs => match namedClass? cs with
    | some (negated, cs) =>
      if namedClassAllowed s.flags negated then some (s.goTo (.inClass (c.add 0) around), cs)
      else none
    | none => s.openClass (c :: around) cs
  | cs => (range? s.flags cs).map fun cs => (s.goTo (.inClass (c.add 0) around), cs)

def stepAtClassStart (s : State) (first : Bool) (c : Class) (around : List Class)
    (cs : List Char) : Option (State × List Char) :=
  let plain : Atom := .literal '-'.toNat false
  match cs with
  | '-' :: rest =>
    if plain.allowedInClass s.flags then
      some (s.goTo (.classStart false (c.add 0) around), rest)
    else none
  | ']' :: rest =>
    if !first then s.stepInClass c around cs
    else if plain.allowedInClass s.flags then some (s.goTo (.inClass (c.add 0) around), rest)
    else none
  | cs => s.stepInClass c around cs

def enter (s : State) (inner : Flags) : State :=
  { s with group := ⟨inner, [], []⟩, around := s.group :: s.around, place := .outside false }

/-- After flags for the rest of the group. -/
def withFlags (s : State) (f : Flags) : State :=
  { s with group := { s.group.add 0 with flags := f }, place := .outside false }

def isNameStart (c : Char) : Bool := c = '_' || isAlphabetic c

def isNameChar (c : Char) : Bool :=
  c = '_' || c = '.' || c = '[' || c = ']' || isAlphanumeric c

/-- A group with a name, from the name on. -/
def openNamed (s : State) (cs : List Char) : Option (State × List Char) :=
  let name := cs.takeWhile (· ≠ '>')
  match name, cs.dropWhile (· ≠ '>') with
  | c :: more, _ :: rest =>
    let text := String.ofList name
    if isNameStart c && more.all isNameChar && !s.names.contains text then
      some ({ s with names := text :: s.names }.enter s.flags, rest)
    else none
  | _, _ => none

/-- After an opening parenthesis: a group, or flags for the rest of the group around it. -/
def openGroup (s : State) (cs : List Char) : Option (State × List Char) :=
  match skip s.flags cs with
  | '?' :: 'P' :: '<' :: cs | '?' :: '<' :: cs => s.openNamed cs
  | '?' :: cs => (s.flags.read [] cs).map fun (f, group, cs) =>
    (if group then s.enter f else s.withFlags f, cs)
  | cs => some (s.enter s.flags, cs)

def closeGroup (s : State) : Option State :=
  match s.around with
  | [] => none
  | g :: gs => some ({ s with group := g, around := gs }.took (s.group.height + 1))

/-- The mark of a repetition that takes as little as it can. -/
def dropLazy : List Char → List Char
  | '?' :: cs => cs
  | cs => cs

def stepOutside (s : State) (operand : Bool) (cs : List Char) : Option (State × List Char) :=
  match cs with
  | '(' :: cs => s.openGroup cs
  | ')' :: cs => s.closeGroup.map fun s => (s, cs)
  | '[' :: cs => s.openClass [] cs
  | '|' :: cs => some ({ s with group := s.group.nextAlternative, place := .outside false }, cs)
  | '\x7b' :: _ => none
  | '*' :: cs | '+' :: cs | '?' :: cs =>
    if operand then some ({ s with group := s.group.repeated }, dropLazy cs) else none
  | '.' :: cs => if s.flags.unicode then some (s.took 0, cs) else none
  | '^' :: cs | '$' :: cs => some (s.took 0, cs)
  | cs => (atom? s.flags cs).bind fun (a, cs) =>
    let edge := s.wordEdge || a.isWordEdge s.flags
    if a.allowed s.flags then some ({ s with wordEdge := edge }.took 0, cs) else none

def step (s : State) (cs : List Char) : Option (State × List Char) :=
  match s.place with
  | .outside operand => s.stepOutside operand cs
  | .classStart first c around => s.stepAtClassStart first c around cs
  | .inClass c around => s.stepInClass c around cs

/-- How deep parts may nest. -/
def maxHeight : Nat := 250

/-- Every class and group is closed, and none is too deep. -/
def isComplete (s : State) : Bool :=
  match s.place with
  | .outside _ => s.around.isEmpty && s.group.height ≤ maxHeight
  | _ => false

/-- A step takes a character at least, so there are no more of them than characters. -/
def run? : Nat → State → List Char → Option State
  | 0, _, _ => none
  | n + 1, s, cs => match skip s.flags cs with
    | [] => if s.isComplete then some s else none
    | cs => (s.step cs).bind fun (s, cs) => run? n s cs

end State

/-- What is wrong with a pattern. -/
inductive Fault where
  | malformed
  | wordEdge
  deriving DecidableEq

def Fault.message : Fault → String
  | malformed => "error building NFA"
  | wordEdge =>
    "unsupported regex feature for DFAs: cannot build DFAs for regexes with Unicode word "
      ++ "boundaries; switch to ASCII word boundaries, or heuristically enable Unicode word "
      ++ "boundary support or use a different regex engine"

/-- What is wrong with a text as a pattern. There are no counted repetitions, whose braces would
end the field. -/
def fault? (cs : List Char) : Option Fault :=
  match State.run? (cs.length + 1) .init cs with
  | none => some .malformed
  | some s => if s.wordEdge then some .wordEdge else none

/-! ### Numbers -/

def dropSign : List Char → List Char
  | '+' :: cs => cs
  | '-' :: cs => cs
  | cs => cs

def isExponent : List Char → Bool
  | [] => true
  | e :: cs =>
    let ds := dropSign cs
    (e = 'e' || e = 'E') && !ds.isEmpty && ds.all Char.isDigit

/-- A number with an optional sign, point and exponent, or the name of a special one. -/
def isNumber (cs : List Char) : Bool :=
  let u := dropSign cs
  let fraction := match u.dropWhile Char.isDigit with
    | '.' :: r => r
    | r => r
  ["inf", "infinity", "nan"].contains (lower (String.ofList u)) ||
    (((u.takeWhile (· ≠ 'e')).takeWhile (· ≠ 'E')).any Char.isDigit
      && isExponent (fraction.dropWhile Char.isDigit))

end CallWatch.Pattern
