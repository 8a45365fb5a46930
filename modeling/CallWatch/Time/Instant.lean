import CallWatch.Text.Numeral

/-!
Instants and their ISO-8601 texts.

An instant is a number of seconds since the start of 1970 and a number of nanoseconds. The
last second of a minute may be doubled: it then counts on past its end and is shown as
second 60. The calendar is the proleptic Gregorian one.
-/

namespace CallWatch

open CallWatch.Text

/-- Years -262143 to 262142, and a nanosecond below 10^9 unless the second is doubled. -/
def Instant.Representable (seconds : Int) (nanos : Nat) : Prop :=
  -8334601228800 ≤ seconds ∧ seconds ≤ 8210266876799 ∧
    (nanos < 1_000_000_000 ∨ nanos < 2_000_000_000 ∧ seconds % 60 = 59)

instance (s : Int) (n : Nat) : Decidable (Instant.Representable s n) :=
  inferInstanceAs (Decidable (_ ∧ _ ∧ _))

structure Instant where
  seconds : Int
  nanos : Nat
  representable : Instant.Representable seconds nanos
  deriving DecidableEq

namespace Instant

def ofUnix? (seconds : Int) (nanos : Nat) : Option Instant :=
  if h : Representable seconds nanos then some ⟨seconds, nanos, h⟩ else none

/-- The start of 1970. -/
def epoch : Instant := ⟨0, 0, by decide⟩

instance : Inhabited Instant := ⟨epoch⟩

/-- Whole milliseconds since the start of 1970. -/
def millis (t : Instant) : Int := t.seconds * 1000 + t.nanos / 1_000_000

def ofMillis? (ms : Int) : Option Instant := ofUnix? (ms / 1000) ((ms % 1000).toNat * 1_000_000)

/-- Earlier or the same. -/
def le (a b : Instant) : Bool :=
  decide (a.seconds < b.seconds ∨ a.seconds = b.seconds ∧ a.nanos ≤ b.nanos)

/-! ### Calendar -/

structure Date where
  year : Int
  month : Nat
  day : Nat

/-- The date that is `days` days after the first of January 1970: the year is counted from
March, in eras of 400 years. -/
def Date.ofDays (days : Int) : Date :=
  let z := days + 719468
  let era := z / 146097
  let doe := (z % 146097).toNat
  let yoe := (doe - doe / 1460 + doe / 36524 - doe / 146096) / 365
  let doy := doe - (365 * yoe + yoe / 4 - yoe / 100)
  let mp := (5 * doy + 2) / 153
  let month := if mp < 10 then mp + 3 else mp - 9
  { year := era * 400 + yoe + (if month ≤ 2 then 1 else 0)
    month := month
    day := doy - (153 * mp + 2) / 5 + 1 }

def date (t : Instant) : Date := .ofDays (t.seconds / 86400)

def secondOfDay (t : Instant) : Nat := (t.seconds % 86400).toNat

/-- Years beyond 0 to 9999 carry a sign. -/
def yearChars (y : Int) : List Char :=
  if y < 0 then '-' :: Numeral.padded 4 y.natAbs
  else if y ≤ 9999 then Numeral.padded 4 y.toNat
  else '+' :: Numeral.padded 5 y.toNat

/-- Date and time up to the second. -/
def wholeChars (t : Instant) : List Char :=
  let d := t.date
  let s := t.secondOfDay
  let second := s % 60 + t.nanos / 1_000_000_000
  yearChars d.year ++ '-' :: Numeral.padded 2 d.month ++ '-' :: Numeral.padded 2 d.day
    ++ 'T' :: Numeral.padded 2 (s / 3600) ++ ':' :: Numeral.padded 2 (s / 60 % 60)
    ++ ':' :: Numeral.padded 2 second

def fraction (t : Instant) : Nat := t.nanos % 1_000_000_000

/-- The text with three digits of the fraction, the others cut off. -/
def text (t : Instant) : String :=
  String.ofList (t.wholeChars ++ '.' :: Numeral.padded 3 (t.fraction / 1_000_000) ++ ['Z'])

/-- The text with the fewest of 0, 3, 6 and 9 digits that tell the instant exactly. -/
def exactText (t : Instant) : String :=
  let f := t.fraction
  let digits :=
    if f = 0 then []
    else if f % 1_000_000 = 0 then '.' :: Numeral.padded 3 (f / 1_000_000)
    else if f % 1000 = 0 then '.' :: Numeral.padded 6 (f / 1000)
    else '.' :: Numeral.padded 9 f
  String.ofList (t.wholeChars ++ digits ++ ['Z'])

end Instant

end CallWatch
