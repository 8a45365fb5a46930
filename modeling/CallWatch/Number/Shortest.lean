import CallWatch.Number.Binary64
import CallWatch.Text.Numeral

/-!
The fewest decimal digits that identify a binary number.

The decimals that round to `m * 2 ^ e` fill an interval around it, ends included when `m` is
even. For one digit, two digits and so on the two neighbours of the number on that decimal
grid are tried; the first grid with a hit gives the digits, and of two hits the nearer wins,
an even last digit deciding a tie.
-/

namespace CallWatch.Binary64

open CallWatch.Text

/-- A decimal `digits * 10 ^ exponent`. -/
structure Decimal where
  digits : Nat
  exponent : Int

/-- `a * 2 ^ e` and `c * 10 ^ s` with the powers cleared, so that they compare as numbers. -/
def cleared (a : Nat) (e : Int) (c : Nat) (s : Int) : Nat × Nat :=
  ((a * Nat.pow 10 (-s).toNat) <<< e.toNat, (c * Nat.pow 10 s.toNat) <<< (-e).toNat)

/-- Whether the decimal `c * 10 ^ s` rounds to `x`. -/
def readsBack (x : Binary64) (c : Nat) (s : Int) : Bool :=
  let below := if x.mantissa = leastFull ∧ x.exponent > -1074 then 1 else 2
  let low := cleared (4 * x.mantissa - below) (x.exponent - 2) c s
  let high := cleared (4 * x.mantissa + 2) (x.exponent - 2) c s
  if x.mantissa % 2 = 0 then low.1 ≤ low.2 && high.2 ≤ high.1
  else low.1 < low.2 && high.2 < high.1

/-- The exponent of the leading decimal digit of a number other than zero. -/
def leadingExponent (x : Binary64) : Int :=
  let a := x.numerator
  let b := x.denominator
  let p : Int := (Numeral.digits a).length - (Numeral.digits b).length
  if b * Nat.pow 10 p.toNat ≤ a * Nat.pow 10 (-p).toNat then p else p - 1

/-- The neighbour of `x` on the grid of `n` digits that reads back, if there is one. -/
def onGrid (x : Binary64) (n : Nat) : Option Decimal :=
  let s := x.leadingExponent + 1 - n
  let v := cleared x.mantissa x.exponent 1 s
  let q := v.1 / v.2
  let r := v.1 % v.2
  let nearest := if 2 * r > v.2 ∨ (2 * r = v.2 ∧ q % 2 = 1) then q + 1 else q
  let other := if nearest = q then q + 1 else q
  if x.readsBack nearest s then some ⟨nearest, s⟩
  else if x.readsBack other s then some ⟨other, s⟩
  else none

def Decimal.stripped (d : Decimal) : Decimal :=
  if d.digits ≠ 0 ∧ d.digits % 10 = 0 then stripped ⟨d.digits / 10, d.exponent + 1⟩ else d
termination_by d.digits

/-- The shortest decimal that reads back as the magnitude of `x`. -/
def shortest (x : Binary64) : Decimal :=
  if x.isZero then ⟨0, 0⟩
  else (((List.range 17).findSome? fun n => x.onGrid (n + 1)).getD
    ⟨x.numerator / x.denominator, 0⟩).stripped

end CallWatch.Binary64
