import CallWatch.Document
import CallWatch.Text.Numeral
import CallWatch.Text.Pieces

/-!
Unquoted values of TOML: truth values, numbers, dates and times.

Whole numbers are decimal with an optional sign, or hexadecimal, octal or binary without one;
single underscores may stand between digits. A value that has the beginning of a whole number
but no number in it is a value of no use, and no error by itself. Of other numbers and of
dates and times only the form is checked.
-/

namespace CallWatch.Toml

open CallWatch.Text

def startsWith (ok : Char → Bool) : List Char → Bool
  | c :: _ => ok c
  | [] => false

def dropSign : List Char → List Char
  | '+' :: cs => cs
  | '-' :: cs => cs
  | cs => cs

def isHexDigit (c : Char) : Bool := (Numeral.hexValue? c).isSome

def isDigitOf (base : Nat) (c : Char) : Bool :=
  match Numeral.hexValue? c with
  | some d => d < base
  | none => false

/-! ### Underscores -/

/-- The pieces between underscores meet in digits; the first may be a lone sign. -/
def meetInDigits (isDigit : Char → Bool) : List (List Char) → Bool
  | p :: q :: ps =>
    (p.length = 1 || startsWith isDigit p.reverse) && startsWith isDigit q
      && meetInDigits isDigit (q :: ps)
  | _ => true

/-- A number without its underscores, if each stands between digits. -/
def withoutGaps? (isDigit : Char → Bool) (cs : List Char) : Option (List Char) :=
  let ps := pieces '_' cs
  if meetInDigits isDigit ps then some ps.flatten else none

/-! ### Whole numbers -/

def natural? (base : Nat) (cs : List Char) : Option Nat :=
  if cs ≠ [] ∧ cs.all (isDigitOf base) then
    some (cs.foldl (fun n c => base * n + (Numeral.hexValue? c).getD 0) 0)
  else none

def int? (base : Nat) : List Char → Option Int
  | '-' :: cs => (natural? base cs).map fun n => -n
  | '+' :: cs => (natural? base cs).map fun n => n
  | cs => (natural? base cs).map fun n => n

def whole? (base : Nat) (cs : List Char) : Option Document :=
  (withoutGaps? isHexDigit cs).map fun cs =>
    match int? base cs with
    | some n => .int n
    | none => .other

/-- A number in another base than ten, after the mark that names the base. -/
def inBase? (base : Nat) (cs : List Char) : Option Document :=
  if cs.all fun c => isDigitOf base c || c = '_' then whole? base cs else none

/-- More than one character, and the first one a zero. -/
def hasIdleZero (cs : List Char) : Bool := 1 < cs.length && cs.head? = some '0'

/-! ### Other numbers -/

def isDigitOrGap (c : Char) : Bool := c.isDigit || c = '_'

/-- What follows the digits at the beginning, of which there has to be one; only where `padded`
may the first of several be a zero. -/
def afterDigits? (padded : Bool) (cs : List Char) : Option (List Char) :=
  let run := cs.takeWhile isDigitOrGap
  let count := run.countP Char.isDigit
  if count = 0 ∨ (padded = false ∧ 1 < count ∧ run.head? = some '0') then none
  else some (cs.dropWhile isDigitOrGap)

/-- What follows a fraction, if there is one. -/
def afterFraction? : List Char → Option (List Char)
  | '.' :: cs => afterDigits? true cs
  | cs => some cs

/-- Nothing, or an exponent and nothing after it. -/
def isExponent : List Char → Bool
  | [] => true
  | e :: cs => (e = 'e' || e = 'E') && afterDigits? true (dropSign cs) == some []

/-- An unsigned number with a fraction, an exponent or both. -/
def isFloat (cs : List Char) : Bool :=
  match (afterDigits? false cs).bind afterFraction? with
  | some rest => isExponent rest
  | none => false

def special : List (List Char) := [['i', 'n', 'f'], ['n', 'a', 'n']]

/-! ### Dates and times -/

/-- A number of exactly `n` digits that `ok` accepts, and what follows. -/
def fixed? (n : Nat) (ok : Nat → Bool) (cs : List Char) : Option (Nat × List Char) :=
  let ds := cs.take n
  if ds.length = n ∧ ds.all Char.isDigit ∧ ok (Numeral.value ds) then
    some (Numeral.value ds, cs.drop n)
  else none

def after? (c : Char) : List Char → Option (List Char)
  | [] => none
  | d :: cs => if d = c then some cs else none

def daysIn (year month : Nat) : Nat :=
  if month = 2 then
    if year % 4 = 0 ∧ (year % 100 ≠ 0 ∨ year % 400 = 0) then 29 else 28
  else if month = 4 ∨ month = 6 ∨ month = 9 ∨ month = 11 then 30
  else 31

def date? (cs : List Char) : Option (List Char) := do
  let (year, cs) ← fixed? 4 (fun _ => true) cs
  let cs ← after? '-' cs
  let (month, cs) ← fixed? 2 (fun m => 1 ≤ m && m ≤ 12) cs
  let cs ← after? '-' cs
  let (_, cs) ← fixed? 2 (fun d => 1 ≤ d && d ≤ daysIn year month) cs
  pure cs

def hourMinute? (cs : List Char) : Option (List Char) := do
  let (_, cs) ← fixed? 2 (· < 24) cs
  let cs ← after? ':' cs
  let (_, cs) ← fixed? 2 (· < 60) cs
  pure cs

/-- Hours and minutes, then perhaps seconds, then perhaps a fraction of one. -/
def time? (cs : List Char) : Option (List Char) := do
  let cs ← hourMinute? cs
  match cs with
  | ':' :: cs =>
    let (_, cs) ← fixed? 2 (· ≤ 60) cs
    match cs with
    | '.' :: cs =>
      if (cs.takeWhile Char.isDigit).isEmpty then none else pure (cs.dropWhile Char.isDigit)
    | cs => pure cs
  | cs => pure cs

def isOffset : List Char → Bool
  | [] => true
  | ['Z'] => true
  | ['z'] => true
  | c :: cs => (c = '+' || c = '-') && hourMinute? cs == some []

def isMoment (cs : List Char) : Bool :=
  match date? cs with
  | none => time? cs == some []
  | some [] => true
  | some (sep :: cs) =>
    (sep = 'T' || sep = 't' || sep = ' ') &&
      match time? cs with
      | some offset => isOffset offset
      | none => false

/-! ### All values -/

/-- A value of which only the form counts. -/
def checked (ok : Bool) : Option Document := if ok then some .other else none

/-- A decimal number, a date or a time; `cs` is the text without its sign. What follows the
first digits tells which of them it is. -/
def decimal? (text cs : List Char) : Option Document :=
  let rest := cs.dropWhile Char.isDigit
  if startsWith (fun c => c = '-' || c = ':') rest then checked (isMoment text)
  else if rest.contains ' ' then none
  else if rest.any fun c => c = '.' || c = 'e' || c = 'E' then
    checked (isFloat cs && (withoutGaps? Char.isDigit text).isSome)
  else if (rest.isEmpty || startsWith (· = '_') rest) && !hasIdleZero cs then whole? 10 text
  else none

/-- The value of an unquoted text. -/
def scalar? (text : List Char) : Option Document :=
  let cs := dropSign text
  if text = ['t', 'r', 'u', 'e'] then some (.bool true)
  else if text = ['f', 'a', 'l', 's', 'e'] then some (.bool false)
  else if special.contains cs then some .other
  else match text with
    | '0' :: 'x' :: ds => inBase? 16 ds
    | '0' :: 'o' :: ds => inBase? 8 ds
    | '0' :: 'b' :: ds => inBase? 2 ds
    | _ => if startsWith isDigitOrGap cs then decimal? text cs else none

end CallWatch.Toml
