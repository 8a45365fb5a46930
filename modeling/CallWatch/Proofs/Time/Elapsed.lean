import CallWatch.Time.Duration
import Mathlib.Tactic.Common
import Mathlib.Tactic.Lemma
import Mathlib.Tactic.SplitIfs

/-!
The time that has elapsed between two instants.

Instants are ordered, and the time from one to the next is the difference of the readings unless a
doubled second lies between them (`signedNanos_of_lt`). A clock that has stepped back gives zero
(`total_between`).
-/

namespace CallWatch

lemma Instant.le_trans {a b c : Instant} (hab : a.le b = true) (hbc : b.le c = true) :
    a.le c = true := by
  simp only [le, decide_eq_true_eq] at *
  omega

lemma Instant.le_total (a b : Instant) : (a.le b || b.le a) = true := by
  simp only [le, Bool.or_eq_true, decide_eq_true_eq]
  omega

namespace Duration

/-- A duration in nanoseconds. -/
def total (d : Duration) : Nat := d.seconds * 1_000_000_000 + d.nanos

lemma total_between (start now : Instant) :
    ((between start now).total : Int) = max 0 (signedNanos start now) := by
  simp only [between, ofNanos, total]
  omega

/-- Where no second is doubled the time elapsed is the difference of the readings. -/
lemma signedNanos_of_lt {start now : Instant} (hs : start.nanos < 1_000_000_000)
    (hn : now.nanos < 1_000_000_000) : signedNanos start now =
      (now.seconds - start.seconds) * 1_000_000_000 + ((now.nanos : Int) - start.nanos) := by
  simp only [signedNanos, Instant.secondOfDay]
  split_ifs <;> omega

/-- The calendar is so short that differences in milliseconds are signed 64-bit numbers. -/
lemma natAbs_signedNanos_lt (start now : Instant) :
    (signedNanos start now).natAbs < 16544868105601 * 1_000_000_000 := by
  have hs := start.representable
  have hn := now.representable
  simp only [Instant.Representable, signedNanos, Instant.secondOfDay] at *
  split_ifs <;> omega

end Duration

end CallWatch
