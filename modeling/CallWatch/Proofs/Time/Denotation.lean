import CallWatch.Proofs.Time.Elapsed
import CallWatch.Proofs.Time.Writing
import Mathlib.Algebra.Order.Floor.Semifield
import Mathlib.Data.Rat.Floor
import Mathlib.Tactic.FieldSimp
import Mathlib.Tactic.Linarith

/-!
What the text of a duration denotes.

A duration is split into days, hours, minutes, seconds and milliseconds, and the parts that are
zero are left out. What is written is canonical, and read back it is the duration rounded down to
milliseconds, in exact fractions of a second: durations have one text exactly if they agree to the
millisecond. Nothing on the way leaves the machine words that hold it.
-/

namespace CallWatch

namespace Duration

open CallWatch.Text

/-- The length in seconds. -/
def exact (d : Duration) : ℚ := d.total / 10 ^ 9

/-- Whole seconds and a fraction. -/
def secondsValue : Option (Nat × List Char) → ℚ
  | none => 0
  | some (n, fs) => n + (Numeral.value fs : ℚ) / 10 ^ fs.length

/-- The length in seconds that is written. -/
def Parts.value (p : Parts) : ℚ :=
  86400 * (p.days.getD 0 : Nat) + 3600 * (p.hours.getD 0 : Nat) + 60 * (p.minutes.getD 0 : Nat)
    + secondsValue p.seconds

/-- The parts of `PT0S`. -/
def Parts.zero : Parts := ⟨none, none, none, some (0, [])⟩

structure Parts.Canonical (p : Parts) : Prop where
  days : ∀ n ∈ p.days, 0 < n
  hours : ∀ n ∈ p.hours, 1 ≤ n ∧ n ≤ 23
  minutes : ∀ n ∈ p.minutes, 1 ≤ n ∧ n ≤ 59
  seconds : ∀ s ∈ p.seconds, s.1 < 60 ∧ (s.1 = 0 → s.2 ≠ [] ∨ p = zero)
  fraction : ∀ s ∈ p.seconds, s.2.length ≤ 3 ∧ s.2.getLast? ≠ some '0'

/-! ### Fractions -/

lemma exists_zeros (cs : List Char) : ∃ k, cs = dropZeros cs ++ List.replicate k '0' := by
  have hzeros : cs.reverse.takeWhile (· = '0') =
      List.replicate (cs.reverse.takeWhile (· = '0')).length '0' :=
    List.eq_replicate_iff.mpr ⟨rfl, fun c hc => by simpa using List.mem_takeWhile_imp hc⟩
  refine ⟨(cs.reverse.takeWhile (· = '0')).length, ?_⟩
  calc cs = (cs.reverse.takeWhile (· = '0') ++ cs.reverse.dropWhile (· = '0')).reverse := by
        rw [List.takeWhile_append_dropWhile, List.reverse_reverse]
    _ = dropZeros cs ++ (cs.reverse.takeWhile (· = '0')).reverse := by
        rw [List.reverse_append, dropZeros]
    _ = dropZeros cs ++ List.replicate (cs.reverse.takeWhile (· = '0')).length '0' := by
        rw [hzeros, List.reverse_replicate, List.length_replicate]

lemma getLast?_dropZeros (cs : List Char) : (dropZeros cs).getLast? ≠ some '0' := by
  intro h
  rw [dropZeros, List.getLast?_reverse] at h
  have hhead := List.head?_dropWhile_not (· = '0') cs.reverse
  rw [h] at hhead
  exact of_decide_eq_false hhead rfl

/-- The zeros at its end add nothing to a fraction. -/
lemma fraction_dropZeros (cs : List Char) :
    (Numeral.value (dropZeros cs) : ℚ) / 10 ^ (dropZeros cs).length =
      Numeral.value cs / 10 ^ cs.length := by
  obtain ⟨k, hk⟩ := exists_zeros cs
  have hvalue : Numeral.value cs = Numeral.value (dropZeros cs) * 10 ^ k := by
    rw [← Numeral.value_append_zeros, ← hk]
  have hlength : cs.length = (dropZeros cs).length + k := by
    rw [← List.length_replicate (n := k) (a := '0'), ← List.length_append, ← hk]
  rw [hvalue, hlength, pow_add]
  push_cast
  field_simp

/-- The digits of a fraction of so many thousandths. -/
def thousandths (millis : Nat) : List Char := dropZeros (Numeral.padded 3 millis)

section thousandths

variable {millis : Nat} (h : millis < 1000)

include h

lemma fraction_thousandths :
    (Numeral.value (thousandths millis) : ℚ) / 10 ^ (thousandths millis).length =
      millis / 1000 := by
  rw [thousandths, fraction_dropZeros, Numeral.value_padded, Numeral.length_padded h]
  norm_num

lemma length_thousandths_le : (thousandths millis).length ≤ 3 := by
  obtain ⟨k, hk⟩ := exists_zeros (Numeral.padded 3 millis)
  have hlength := congrArg List.length hk
  rw [Numeral.length_padded h, List.length_append] at hlength
  rw [thousandths]
  omega

lemma thousandths_ne_nil (hne : millis ≠ 0) : thousandths millis ≠ [] := by
  intro hnil
  have hfraction := fraction_thousandths h
  have hvalue : Numeral.value [] = 0 := rfl
  rw [hnil, hvalue, Nat.cast_zero, zero_div, eq_comm, div_eq_zero_iff,
    Nat.cast_eq_zero] at hfraction
  exact hfraction.elim hne (by norm_num)

end thousandths

lemma isDigit_of_mem_thousandths {millis : Nat} {c : Char} (h : c ∈ thousandths millis) :
    c.isDigit = true := by
  obtain ⟨k, hk⟩ := exists_zeros (Numeral.padded 3 millis)
  have hmem : c ∈ Numeral.padded 3 millis := hk ▸ List.mem_append_left _ h
  exact Numeral.isDigit_of_mem_padded hmem

/-! ### Splitting -/

/-- A part that is zero is left out. -/
def nonzero (n : Nat) : Option Nat := if n = 0 then none else some n

lemma getD_nonzero (n : Nat) : (nonzero n).getD 0 = n := by
  unfold nonzero
  split <;> simp_all

lemma eq_of_mem_nonzero {m n : Nat} (h : m ∈ nonzero n) : m = n ∧ n ≠ 0 := by
  unfold nonzero at h
  split at h
  · cases h
  · next hn => exact ⟨(Option.some.inj h).symm, hn⟩

lemma component_nonzero (n : Nat) (designator : Char) :
    Component designator (nonzero n) (component n designator) := by
  unfold nonzero component
  split
  · exact .absent
  · exact .present n

lemma component_eq_nil {n : Nat} {designator : Char} : component n designator = [] ↔ n = 0 := by
  unfold component
  split <;> simp_all

def secondsOf (seconds millis : Nat) : Option (Nat × List Char) :=
  if millis = 0 then (nonzero seconds).map fun n => (n, []) else some (seconds, thousandths millis)

lemma eq_of_mem_secondsOf {s : Nat × List Char} {seconds millis : Nat}
    (h : s ∈ secondsOf seconds millis) :
    s = (seconds, []) ∧ seconds ≠ 0 ∨ s = (seconds, thousandths millis) ∧ millis ≠ 0 := by
  unfold secondsOf at h
  split at h
  · obtain ⟨n, hn, rfl⟩ := Option.map_eq_some_iff.mp (Option.mem_def.mp h)
    obtain ⟨rfl, hne⟩ := eq_of_mem_nonzero (Option.mem_def.mpr hn)
    exact .inl ⟨rfl, hne⟩
  · next hne => exact .inr ⟨(Option.some.inj h).symm, hne⟩

def secondsChars (seconds millis : Nat) : List Char :=
  if millis = 0 then component seconds 'S'
  else Numeral.digits seconds ++ '.' :: (thousandths millis ++ ['S'])

lemma seconds_secondsOf (seconds : Nat) {millis : Nat} (h : millis < 1000) :
    Seconds (secondsOf seconds millis) (secondsChars seconds millis) := by
  unfold secondsOf secondsChars
  split
  · unfold nonzero component
    split
    · exact .absent
    · exact .whole seconds
  · next hm =>
    exact .fractional seconds (thousandths_ne_nil h hm) fun _ => isDigit_of_mem_thousandths

lemma secondsChars_eq_nil {seconds millis : Nat} :
    secondsChars seconds millis = [] ↔ seconds = 0 ∧ millis = 0 := by
  unfold secondsChars
  split
  · next h => simp [component_eq_nil, h]
  · next h => simp [h]

/-- The parts of so many days, hours, minutes, seconds and milliseconds. -/
def Parts.ofNumbers (days hours minutes seconds millis : Nat) : Parts :=
  if days = 0 ∧ hours = 0 ∧ minutes = 0 ∧ seconds = 0 ∧ millis = 0 then zero
  else ⟨nonzero days, nonzero hours, nonzero minutes, secondsOf seconds millis⟩

section numbers

variable {days hours minutes seconds millis : Nat}

lemma canonical_zero : Parts.zero.Canonical := by
  refine ⟨?_, ?_, ?_, ?_, ?_⟩ <;> simp [Parts.zero]

lemma canonical_ofNumbers (hh : hours < 24) (hm : minutes < 60) (hs : seconds < 60)
    (hms : millis < 1000) : (Parts.ofNumbers days hours minutes seconds millis).Canonical := by
  unfold Parts.ofNumbers
  split
  · exact canonical_zero
  · refine ⟨?_, ?_, ?_, ?_, ?_⟩
    · intro n hn
      have := eq_of_mem_nonzero hn
      omega
    · intro n hn
      have := eq_of_mem_nonzero hn
      omega
    · intro n hn
      have := eq_of_mem_nonzero hn
      omega
    · intro s hsec
      rcases eq_of_mem_secondsOf hsec with ⟨rfl, hne⟩ | ⟨rfl, hne⟩
      · exact ⟨hs, fun h0 => absurd h0 hne⟩
      · exact ⟨hs, fun _ => .inl (thousandths_ne_nil hms hne)⟩
    · intro s hsec
      rcases eq_of_mem_secondsOf hsec with ⟨rfl, -⟩ | ⟨rfl, -⟩
      · exact ⟨Nat.zero_le 3, Option.some_ne_none _ ∘ Eq.symm⟩
      · exact ⟨length_thousandths_le hms, getLast?_dropZeros _⟩

lemma value_secondsOf (hms : millis < 1000) :
    secondsValue (secondsOf seconds millis) = seconds + millis / 1000 := by
  unfold secondsOf
  split
  · next h =>
    unfold nonzero
    split
    · next hs => simp [secondsValue, h, hs]
    · simp [secondsValue, h, Numeral.value]
  · rw [secondsValue, fraction_thousandths hms]

lemma value_ofNumbers (hms : millis < 1000) :
    (Parts.ofNumbers days hours minutes seconds millis).value =
      86400 * days + 3600 * hours + 60 * minutes + seconds + millis / 1000 := by
  unfold Parts.ofNumbers
  split
  · next h =>
    obtain ⟨rfl, rfl, rfl, rfl, rfl⟩ := h
    simp [Parts.zero, Parts.value, secondsValue, Numeral.value]
  · rw [Parts.value, getD_nonzero, getD_nonzero, getD_nonzero, value_secondsOf hms]
    ring

/-- What is written behind the letter T. -/
def timeChars (hours minutes seconds millis : Nat) : List Char :=
  component hours 'H' ++ (component minutes 'M' ++ secondsChars seconds millis)

lemma timeChars_eq_nil :
    timeChars hours minutes seconds millis = [] ↔
      hours = 0 ∧ minutes = 0 ∧ seconds = 0 ∧ millis = 0 := by
  rw [timeChars, List.append_eq_nil_iff, List.append_eq_nil_iff, component_eq_nil,
    component_eq_nil, secondsChars_eq_nil]

lemma written_zero : Written .zero ['P', 'T', '0', 'S'] := by
  have hdigits : Numeral.digits 0 = ['0'] := Numeral.digits_of_lt (by decide)
  have hseconds : Seconds Parts.zero.seconds ['0', 'S'] := by
    have h := Seconds.whole 0
    rwa [hdigits] at h
  exact .time .absent .absent .absent hseconds (List.cons_ne_nil _ _)

lemma written_ofNumbers (hms : millis < 1000) :
    Written (.ofNumbers days hours minutes seconds millis)
      ('P' :: (component days 'D' ++
        if timeChars hours minutes seconds millis ≠ [] then
          'T' :: timeChars hours minutes seconds millis
        else if days ≠ 0 then [] else ['T', '0', 'S'])) := by
  unfold Parts.ofNumbers
  by_cases htime : timeChars hours minutes seconds millis = []
  · obtain ⟨rfl, rfl, rfl, rfl⟩ := timeChars_eq_nil.mp htime
    rw [if_neg (not_not.mpr htime)]
    by_cases hdays : days = 0
    · subst hdays
      exact written_zero
    · have hsome : nonzero days = some days := if_neg hdays
      have hdate := component_nonzero days 'D'
      rw [hsome] at hdate ⊢
      rw [if_pos hdays, if_neg (by simp [hdays]), List.append_nil]
      exact .date hdate
  · rw [if_pos htime, if_neg fun h => htime (timeChars_eq_nil.mpr h.2)]
    exact .time (component_nonzero days 'D') (component_nonzero hours 'H')
      (component_nonzero minutes 'M') (seconds_secondsOf seconds hms) htime

end numbers

/-! ### Exactness -/

/-- The parts that a duration is split into. -/
def parts (d : Duration) : Parts :=
  .ofNumbers (d.millis / 86400000) (d.millis % 86400000 / 3600000)
    (d.millis % 3600000 / 60000) (d.millis % 60000 / 1000) (d.millis % 1000)

lemma written_parts (d : Duration) : Written d.parts d.chars := by
  have hwritten : Written d.parts _ := written_ofNumbers (by omega)
  have htime : timeChars (d.millis % 86400000 / 3600000) (d.millis % 3600000 / 60000)
      (d.millis % 60000 / 1000) (d.millis % 1000) =
        component (d.millis % 86400000 / 3600000) 'H' ++
          component (d.millis % 3600000 / 60000) 'M' ++
          if d.millis % 1000 = 0 then component (d.millis % 60000 / 1000) 'S'
          else Numeral.digits (d.millis % 60000 / 1000) ++
            '.' :: dropZeros (Numeral.padded 3 (d.millis % 1000)) ++ ['S'] := by
    rw [timeChars, secondsChars, thousandths, List.append_assoc, List.append_assoc]
    rfl
  rw [htime] at hwritten
  exact hwritten

lemma canonical_parts (d : Duration) : d.parts.Canonical :=
  canonical_ofNumbers (by omega) (by omega) (by omega) (by omega)

lemma value_parts (d : Duration) : d.parts.value = (d.millis : ℚ) / 1000 := by
  have hsplit : d.millis = 86400000 * (d.millis / 86400000) +
      3600000 * (d.millis % 86400000 / 3600000) + 60000 * (d.millis % 3600000 / 60000) +
      1000 * (d.millis % 60000 / 1000) + d.millis % 1000 := by omega
  have hcast := congrArg (Nat.cast (R := ℚ)) hsplit
  push_cast at hcast
  rw [parts, value_ofNumbers (by omega)]
  linarith

/-- Rounding down to milliseconds. -/
lemma floor_exact (d : Duration) : ⌊d.exact * 1000⌋₊ = d.millis := by
  have hexact : d.exact * 1000 = (d.total : ℚ) / (1000000 : Nat) := by
    rw [exact]
    push_cast
    ring
  rw [hexact, Nat.floor_div_eq_div, total, millis]
  omega

lemma read?_text (d : Duration) : read? d.text.toList = some d.parts := by
  rw [text, String.toList_ofList]
  exact read?_of_written d.written_parts

lemma text_eq_iff {d e : Duration} : d.text = e.text ↔ d.millis = e.millis := by
  constructor
  · intro h
    have hread := d.read?_text
    rw [h, e.read?_text] at hread
    have hvalue : (e.millis : ℚ) / 1000 = d.millis / 1000 := by
      rw [← value_parts, ← value_parts, Option.some.inj hread]
    have hcast : (d.millis : ℚ) = e.millis := by linarith
    exact_mod_cast hcast
  · intro h
    rw [text, text, chars, chars, h]

/-- What is written of a duration. The milliseconds are 128-bit numbers if the seconds are 64-bit
numbers. -/
structure TextExact (d : Duration) : Prop where
  parts : ∃ p, Written p d.text.toList ∧ read? d.text.toList = some p ∧ p.Canonical ∧
    p.value = (⌊d.exact * 1000⌋₊ : ℚ) / 1000
  same : ∀ e : Duration, d.text = e.text ↔ ⌊d.exact * 1000⌋₊ = ⌊e.exact * 1000⌋₊
  fits : d.seconds < 2 ^ 64 → d.seconds * 1000 + d.nanos / 1_000_000 < 2 ^ 128

lemma textExact (d : Duration) : d.TextExact where
  parts := by
    refine ⟨d.parts, ?_, d.read?_text, d.canonical_parts, ?_⟩
    · rw [text, String.toList_ofList]
      exact d.written_parts
    · rw [d.value_parts, floor_exact]
  same := by
    intro e
    rw [floor_exact, floor_exact, text_eq_iff]
  fits := by
    have hnanos := d.nanos_lt
    omega

end Duration

/-- The seconds since the start of 1970. -/
def Instant.exact (t : Instant) : ℚ := t.seconds + t.nanos / 10 ^ 9

namespace Duration

lemma exact_between {start now : Instant} (hs : start.nanos < 1_000_000_000)
    (hn : now.nanos < 1_000_000_000) :
    (between start now).exact = max 0 (now.exact - start.exact) := by
  have htotal := total_between start now
  rw [signedNanos_of_lt hs hn] at htotal
  have hcast := congrArg (Int.cast (R := ℚ)) htotal
  push_cast at hcast
  have hdifference : now.exact - start.exact =
      ((now.seconds - start.seconds) * 1000000000 + (now.nanos - start.nanos)) / 10 ^ 9 := by
    rw [Instant.exact, Instant.exact]
    ring
  rw [exact, hcast, hdifference, ← max_div_div_right (by norm_num), zero_div]

/-- What is written of the time from one instant to another. The difference is a signed 64-bit
number of milliseconds, and what has elapsed is an unsigned 64-bit number of seconds. -/
structure ElapsedExact (start now : Instant) : Prop where
  parts : ∃ p, read? (between start now).text.toList = some p ∧
    p.value = (⌊max 0 (now.exact - start.exact) * 1000⌋₊ : ℚ) / 1000
  fits : (signedNanos start now).natAbs / 1_000_000 < 2 ^ 63 ∧ (between start now).seconds < 2 ^ 64

/-- **The text of a duration is canonical and exact.** It is a written duration without needless
parts, and read back it is the duration rounded down to milliseconds. Of two instants it is the
time from the first to the second, none if the second is earlier. -/
theorem text_exact :
    (∀ d : Duration, d.TextExact) ∧
      ∀ start now : Instant, start.nanos < 1_000_000_000 → now.nanos < 1_000_000_000 →
        ElapsedExact start now := by
  refine ⟨textExact, fun start now hs hn => ⟨?_, ?_⟩⟩
  · obtain ⟨p, -, hread, -, hvalue⟩ := (textExact (between start now)).parts
    rw [exact_between hs hn] at hvalue
    exact ⟨p, hread, hvalue⟩
  · have hbound := natAbs_signedNanos_lt start now
    refine ⟨by omega, ?_⟩
    rw [between, ofNanos]
    dsimp only
    omega

/-- From half a millisecond before midnight to a little more than a millisecond after the next. -/
theorem text_exact_midnight :
    let start : Instant := ⟨-1, 999_500_000, by decide⟩
    let now : Instant := ⟨86400, 1_250_000, by decide⟩
    (start.nanos < 1_000_000_000 ∧ now.nanos < 1_000_000_000) ∧
      (between start now).text = "P1DT0.001S" ∧
        ∃ p, read? (between start now).text.toList = some p ∧ p.value = 86400 + 1 / 1000 := by
  intro start now
  have hs : start.nanos < 1_000_000_000 := by decide
  have hn : now.nanos < 1_000_000_000 := by decide
  obtain ⟨p, hread, hvalue⟩ := (text_exact.2 start now hs hn).parts
  have hfloor : ⌊max 0 (now.exact - start.exact) * 1000⌋₊ = 86400001 := by
    rw [← exact_between hs hn, floor_exact]
    decide
  rw [hfloor] at hvalue
  refine ⟨⟨hs, hn⟩, by decide +kernel, p, hread, ?_⟩
  rw [hvalue]
  norm_num

end Duration

end CallWatch
