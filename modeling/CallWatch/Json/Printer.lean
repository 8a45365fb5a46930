import CallWatch.Json.Basic
import CallWatch.Number.Shortest
import CallWatch.Text.Numeral

/-!
JSON texts.

`compact` writes a value without blanks; `pretty` puts every entry on a line of its own,
two spaces deeper than its container. Strings escape the quote, the backslash and the
characters below the space, and keep everything else as it is. A binary fraction is written
with the digits of `Binary64.shortest`, in plain notation while its point stands near them.
-/

namespace CallWatch.Json

open CallWatch.Text

def escapeChar (c : Char) : List Char :=
  if c = '"' then ['\\', '"']
  else if c = '\\' then ['\\', '\\']
  else if c = '\x08' then ['\\', 'b']
  else if c = '\x0c' then ['\\', 'f']
  else if c = '\n' then ['\\', 'n']
  else if c = '\r' then ['\\', 'r']
  else if c = '\t' then ['\\', 't']
  else if c.toNat < 0x20 then '\\' :: 'u' :: Numeral.hexQuad false c.toNat
  else [c]

def stringChars (s : String) : List Char := '"' :: s.toList.flatMap escapeChar ++ ['"']

/-- Digits `d₁d₂…` with the value `0.d₁d₂… * 10 ^ point`, laid out: plain for points from -4
to 16, always with a fraction, and with a signed exponent otherwise. -/
def layout (ds : List Char) (point : Int) : List Char :=
  if -5 < point ∧ point ≤ 0 then
    ['0', '.'] ++ List.replicate point.natAbs '0' ++ ds
  else if 0 < point ∧ point ≤ 16 then
    let k := point.toNat
    if ds.length ≤ k then ds ++ List.replicate (k - ds.length) '0' ++ ['.', '0']
    else ds.take k ++ ['.'] ++ ds.drop k
  else
    let e := point - 1
    ds.take 1 ++ (if ds.length ≤ 1 then [] else '.' :: ds.drop 1)
      ++ ['e', if e < 0 then '-' else '+'] ++ Numeral.digits e.natAbs

def floatChars (x : Binary64) : List Char :=
  let d := x.shortest
  let ds := Numeral.digits d.digits
  (if x.negative then ['-'] else [])
    ++ (if x.isZero then ['0', '.', '0'] else layout ds (d.exponent + ds.length))

def scalarChars : Json → List Char
  | null => ['n', 'u', 'l', 'l']
  | bool true => ['t', 'r', 'u', 'e']
  | bool false => ['f', 'a', 'l', 's', 'e']
  | int n => Numeral.intDigits n
  | float x => floatChars x
  | str s => stringChars s
  | arr _ => ['[', ']']
  | obj _ => ['\x7b', '\x7d']

mutual

def compactChars : Json → List Char
  | arr xs => '[' :: compactItems xs ++ [']']
  | obj kvs => '\x7b' :: compactFields kvs ++ ['\x7d']
  | v => scalarChars v

def compactItems : List Json → List Char
  | [] => []
  | [v] => compactChars v
  | v :: rest => compactChars v ++ ',' :: compactItems rest

def compactFields : List (String × Json) → List Char
  | [] => []
  | [(k, v)] => stringChars k ++ ':' :: compactChars v
  | (k, v) :: rest => stringChars k ++ ':' :: compactChars v ++ ',' :: compactFields rest

end

/-- A line break and the indentation of depth `n`. -/
def newline (n : Nat) : List Char := '\n' :: List.replicate (2 * n) ' '

mutual

def prettyChars (depth : Nat) : Json → List Char
  | arr (x :: xs) => '[' :: prettyItems (depth + 1) (x :: xs) ++ newline depth ++ [']']
  | obj (f :: fs) =>
    '\x7b' :: prettyFields (depth + 1) (f :: fs) ++ newline depth ++ ['\x7d']
  | v => scalarChars v

def prettyItems (depth : Nat) : List Json → List Char
  | [] => []
  | [v] => newline depth ++ prettyChars depth v
  | v :: rest => newline depth ++ prettyChars depth v ++ ',' :: prettyItems depth rest

def prettyFields (depth : Nat) : List (String × Json) → List Char
  | [] => []
  | [(k, v)] => newline depth ++ stringChars k ++ [':', ' '] ++ prettyChars depth v
  | (k, v) :: rest =>
    newline depth ++ stringChars k ++ [':', ' '] ++ prettyChars depth v
      ++ ',' :: prettyFields depth rest

end

def compact (v : Json) : String := String.ofList v.compactChars

def pretty (v : Json) : String := String.ofList (v.prettyChars 0)

end CallWatch.Json
