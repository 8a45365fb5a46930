/-!
Finite binary floating-point numbers of 64 bits, as exact data.

A number is a sign, a mantissa below 2^53 and an exponent of two; `ofRatio` rounds an exact
quotient to the nearest such number, a tie going to the even mantissa, and answers `none`
when that number would be infinite. Products and quotients are rounded exact ones.
-/

namespace CallWatch

structure Binary64 where
  negative : Bool
  mantissa : Nat
  exponent : Int
  deriving DecidableEq

namespace Binary64

def zero : Binary64 := ⟨false, 0, -1074⟩

/-- The mantissas of all numbers but those next to zero are at least this and below its double. -/
def leastFull : Nat := 1 <<< 52

def isZero (x : Binary64) : Bool := x.mantissa == 0

def neg (x : Binary64) : Binary64 := { x with negative := !x.negative }

/-- The two zeros are one value; otherwise equal values have equal data. -/
def sameValue (x y : Binary64) : Bool := (x.isZero && y.isZero) || x == y

/-- The quotient rounded to the nearest integer, a tie going to the even one. -/
def roundDiv (a b : Nat) : Nat :=
  let q := a / b
  let r := a % b
  if 2 * r > b ∨ (2 * r = b ∧ q % 2 = 1) then q + 1 else q

/-- `a / b` times `2 ^ -e`, as a numerator and a denominator. -/
def scaled (a b : Nat) (e : Int) : Nat × Nat := (a <<< (-e).toNat, b <<< e.toNat)

/-- The exponent at which the mantissa of `a / b` has 53 bits, but no less than -1074. -/
def exponentFor (a b : Nat) : Int :=
  let e : Int := (a.log2 : Int) - b.log2 - 52
  let s := scaled a b e
  max (if s.1 / s.2 < leastFull then e - 1 else e) (-1074)

/-- The number nearest to `a / b`. -/
def ofRatio (a b : Nat) : Option Binary64 :=
  if a = 0 then some zero
  else
    let e := exponentFor a b
    let s := scaled a b e
    let m := roundDiv s.1 s.2
    let x : Binary64 := if m = 2 * leastFull then ⟨false, leastFull, e + 1⟩ else ⟨false, m, e⟩
    if x.exponent > 971 then none else some x

def ofNat (n : Nat) : Option Binary64 := ofRatio n 1

def numerator (x : Binary64) : Nat := x.mantissa <<< x.exponent.toNat

def denominator (x : Binary64) : Nat := 1 <<< (-x.exponent).toNat

/-- The rounded product of the magnitudes. -/
def mul (x y : Binary64) : Option Binary64 :=
  ofRatio (x.numerator * y.numerator) (x.denominator * y.denominator)

/-- The rounded quotient of the magnitudes. -/
def div (x y : Binary64) : Option Binary64 :=
  ofRatio (x.numerator * y.denominator) (x.denominator * y.numerator)

def powerOfTen (k : Nat) : Option Binary64 := ofNat (Nat.pow 10 k)

/-- The exponent of the largest finite power of ten. -/
def maxPower : Nat := 308

/-- `n` divisions by the largest finite power of ten; zero stays as it is. -/
def shrink : Nat → Binary64 → Option Binary64
  | 0, x => some x
  | n + 1, x =>
    if x.isZero then some x else ((powerOfTen maxPower).bind x.div).bind (shrink n)

/-- Division by `10 ^ k`, by no more than the largest finite power of ten at a time. -/
def scaleDown (x : Binary64) (k : Nat) : Option Binary64 :=
  let n := (k - 1) / maxPower
  (shrink n x).bind fun y => (powerOfTen (k - maxPower * n)).bind y.div

/-- The number written `significand * 10 ^ exponent`: the significand is rounded first, and
the result is its rounded product or quotient with a power of ten. -/
def ofDecimal (significand : Nat) (exponent : Int) : Option Binary64 :=
  match ofNat significand with
  | none => none
  | some x =>
    if exponent < 0 then x.scaleDown exponent.natAbs
    else if exponent ≤ maxPower then (powerOfTen exponent.toNat).bind x.mul
    else if x.isZero then some x
    else none

end Binary64

end CallWatch
