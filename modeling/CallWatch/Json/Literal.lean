import CallWatch.Json.Basic
import CallWatch.Text.Numeral

/-!
Number and string literals of JSON, and what they denote.

A literal is kept as written until somebody asks for its value: a number may be too large
for a finite binary fraction, and a string may name half of a surrogate pair.
-/

namespace CallWatch.Json

open CallWatch.Text

/-- A number: whole digits, digits after the point, and a signed exponent. -/
structure NumberLiteral where
  negative : Bool
  whole : List Char
  fraction : Option (List Char)
  exponent : Option (Bool × List Char)

namespace NumberLiteral

/-- A non-empty run of digits at the front, and the rest. -/
def splitDigits? (cs : List Char) : Option (List Char × List Char) :=
  match cs.takeWhile Char.isDigit with
  | [] => none
  | ds => some (ds, cs.dropWhile Char.isDigit)

def readExponent? (n : NumberLiteral) : List Char → Option NumberLiteral
  | [] => some n
  | e :: cs =>
    if e = 'e' ∨ e = 'E' then
      let (below, cs) := match cs with
        | '-' :: r => (true, r)
        | '+' :: r => (false, r)
        | r => (false, r)
      match splitDigits? cs with
      | some (ds, []) => some { n with exponent := some (below, ds) }
      | _ => none
    else none

def readUnsigned? (negative : Bool) (cs : List Char) : Option NumberLiteral :=
  match splitDigits? cs with
  | none => none
  | some (ds, rest) =>
    if ds.length > 1 ∧ ds.head? = some '0' then none
    else match rest with
      | '.' :: r => match splitDigits? r with
        | some (fs, r) => readExponent? ⟨negative, ds, some fs, none⟩ r
        | none => none
      | r => readExponent? ⟨negative, ds, none, none⟩ r

def read? : List Char → Option NumberLiteral
  | '-' :: cs => readUnsigned? true cs
  | cs => readUnsigned? false cs

/-- Whole digits go into the significand while it stays below 2^64; each one after that
raises the exponent by one. -/
def takeWhole (s : Nat × Int) : List Char → Nat × Int
  | [] => s
  | d :: ds =>
    let n := 10 * s.1 + Numeral.digitValue d
    if n < UInt64.size then takeWhole (n, s.2) ds else (s.1, s.2 + (ds.length + 1))

/-- Digits after the point go into the significand while it stays below 2^64, each lowering
the exponent by one; the others are dropped. -/
def takeFraction (s : Nat × Int) : List Char → Nat × Int
  | [] => s
  | d :: ds =>
    let n := 10 * s.1 + Numeral.digitValue d
    if n < UInt64.size then takeFraction (n, s.2 - 1) ds else s

def toBinary? (n : NumberLiteral) : Option Binary64 :=
  let s := takeFraction (takeWhole (0, 0) n.whole) (n.fraction.getD [])
  let shift : Int := match n.exponent with
    | none => 0
    | some (below, ds) => if below then -(Numeral.value ds : Int) else Numeral.value ds
  (Binary64.ofDecimal s.1 (s.2 + shift)).map fun x => if n.negative then x.neg else x

/-- Whole numbers from -2^63 to 2^64 - 1 are exact, `-0` apart; all others are binary
fractions, and one that is too large has no value. -/
def value? (n : NumberLiteral) : Option Json :=
  let k := Numeral.value n.whole
  let exact := n.fraction.isNone && n.exponent.isNone
  if exact && !n.negative && k < UInt64.size then some (int k)
  else if exact && n.negative && 0 < k && 2 * k ≤ UInt64.size then some (int (-(k : Int)))
  else n.toBinary?.map float

end NumberLiteral

/-- A character of a string as written: itself, or a 16-bit unit given by its number. -/
inductive Piece where
  | char (c : Char)
  | unit (n : Nat)

abbrev StringLiteral := List Piece

namespace StringLiteral

def isHigh (n : Nat) : Bool := 0xd800 ≤ n && n < 0xdc00

def isLow (n : Nat) : Bool := 0xdc00 ≤ n && n < 0xe000

/-- Units of a surrogate pair name one character together and none apart. -/
def chars? : StringLiteral → Option (List Char)
  | [] => some []
  | .char c :: rest => (chars? rest).map (c :: ·)
  | .unit n :: rest =>
    if isHigh n then
      match rest with
      | .unit m :: rest =>
        if isLow m then
          (chars? rest).map (Char.ofNat (0x10000 + (n - 0xd800) * 0x400 + (m - 0xdc00)) :: ·)
        else none
      | _ => none
    else if isLow n then none
    else (chars? rest).map (Char.ofNat n :: ·)

def text? (s : StringLiteral) : Option String := s.chars?.map String.ofList

end StringLiteral

end CallWatch.Json
