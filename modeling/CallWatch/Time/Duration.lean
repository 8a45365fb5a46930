import CallWatch.Time.Instant

/-!
Durations, the time elapsed between two instants, and the text of a duration.

The text has the form `P1DT2H3M4.5S` with the components that are zero left out; it is exact
to the millisecond below.
-/

namespace CallWatch

open CallWatch.Text

structure Duration where
  seconds : Nat
  nanos : Nat
  nanos_lt : nanos < 1_000_000_000
  deriving DecidableEq

namespace Duration

def zero : Duration := ⟨0, 0, by decide⟩

def ofNanos (n : Nat) : Duration := ⟨n / 1_000_000_000, n % 1_000_000_000, Nat.mod_lt _ (by decide)⟩

def ofParts? (seconds nanos : Nat) : Option Duration :=
  if h : nanos < 1_000_000_000 then some ⟨seconds, nanos, h⟩ else none

def millis (d : Duration) : Nat := d.seconds * 1000 + d.nanos / 1_000_000

/-- Nanoseconds from `start` to `now`, negative when `now` is earlier. Within a day a doubled
second between the two counts as a second of its own. -/
def signedNanos (start now : Instant) : Int :=
  let days := now.seconds / 86400 - start.seconds / 86400
  let seconds : Int := (now.secondOfDay : Int) - start.secondOfDay
  let leap : Int :=
    if start.secondOfDay < now.secondOfDay ∧ 1_000_000_000 ≤ start.nanos then 1
    else if now.secondOfDay < start.secondOfDay ∧ 1_000_000_000 ≤ now.nanos then -1
    else 0
  (days * 86400 + seconds + leap) * 1_000_000_000 + ((now.nanos : Int) - start.nanos)

/-- The time elapsed, zero when the clock has stepped back. -/
def between (start now : Instant) : Duration := ofNanos (signedNanos start now).toNat

def dropZeros (cs : List Char) : List Char := (cs.reverse.dropWhile (· = '0')).reverse

/-- A component with its designator, or nothing when it is zero. -/
def component (n : Nat) (designator : Char) : List Char :=
  if n = 0 then [] else Numeral.digits n ++ [designator]

def chars (d : Duration) : List Char :=
  let total := d.millis
  let days := total / 86400000
  let hours := total % 86400000 / 3600000
  let minutes := total % 3600000 / 60000
  let seconds := total % 60000 / 1000
  let millis := total % 1000
  let time := component hours 'H' ++ component minutes 'M' ++
    if millis = 0 then component seconds 'S'
    else Numeral.digits seconds ++ '.' :: dropZeros (Numeral.padded 3 millis) ++ ['S']
  'P' :: component days 'D' ++
    if time ≠ [] then 'T' :: time
    else if days ≠ 0 then []
    else ['T', '0', 'S']

def text (d : Duration) : String := String.ofList d.chars

end Duration

end CallWatch
