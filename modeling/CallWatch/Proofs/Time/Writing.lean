import CallWatch.Proofs.Text.Numerals
import CallWatch.Time.Duration

/-!
The written form of durations, and a reader for it.

A written duration has a part for the days and, behind the letter T, parts for the hours, the
minutes and the seconds, which may have a fraction. Any part may be missing, but not all of them,
and not all behind a T. The reader takes the parts off the front one after the other: each ends at
its own letter, so nothing else can be read out of a text (`read?_of_written`).
-/

namespace CallWatch.Duration

open CallWatch.Text

/-- The parts of a written duration; a fraction is given by its digits, an empty one is not
written. -/
structure Parts where
  days : Option Nat
  hours : Option Nat
  minutes : Option Nat
  seconds : Option (Nat × List Char)
  deriving DecidableEq

/-! ### The form -/

/-- A number and its designator, or nothing. -/
inductive Component (designator : Char) : Option Nat → List Char → Prop
  | absent : Component designator none []
  | present (n : Nat) : Component designator (some n) (Numeral.digits n ++ [designator])

inductive Seconds : Option (Nat × List Char) → List Char → Prop
  | absent : Seconds none []
  | whole (n : Nat) : Seconds (some (n, [])) (Numeral.digits n ++ ['S'])
  | fractional (n : Nat) {fs : List Char} (hne : fs ≠ []) (hfs : ∀ c ∈ fs, c.isDigit = true) :
    Seconds (some (n, fs)) (Numeral.digits n ++ '.' :: (fs ++ ['S']))

inductive Written : Parts → List Char → Prop
  | date {n : Nat} {u : List Char} (hd : Component 'D' (some n) u) :
    Written ⟨some n, none, none, none⟩ ('P' :: u)
  | time {p : Parts} {u h m s : List Char} (hd : Component 'D' p.days u)
    (hh : Component 'H' p.hours h) (hm : Component 'M' p.minutes m) (hs : Seconds p.seconds s)
    (hne : h ++ (m ++ s) ≠ []) : Written p ('P' :: (u ++ 'T' :: (h ++ (m ++ s))))

/-! ### The reader -/

/-- The number in front of a designator, if there is one, and what comes behind. -/
def readComponent (designator : Char) (cs : List Char) : Option Nat × List Char :=
  match cs.dropWhile Char.isDigit with
  | [] => (none, cs)
  | c :: rest =>
    if c = designator ∧ cs.takeWhile Char.isDigit ≠ [] then
      (some (Numeral.value (cs.takeWhile Char.isDigit)), rest)
    else (none, cs)

/-- The digits of the fraction in front of the designator of the seconds. -/
def readFraction? : List Char → Option (List Char)
  | '.' :: cs =>
    if cs.takeWhile Char.isDigit ≠ [] ∧ cs.dropWhile Char.isDigit = ['S'] then
      some (cs.takeWhile Char.isDigit)
    else none
  | cs => if cs = ['S'] then some [] else none

/-- The seconds, which are the last part. -/
def readSeconds? : List Char → Option (Option (Nat × List Char))
  | [] => some none
  | c :: cs =>
    let ds := (c :: cs).takeWhile Char.isDigit
    if ds = [] then none
    else (readFraction? ((c :: cs).dropWhile Char.isDigit)).map fun fs =>
      some (Numeral.value ds, fs)

/-- The parts behind the letter T. -/
def readTime? (days : Option Nat) (cs : List Char) : Option Parts :=
  let h := readComponent 'H' cs
  let m := readComponent 'M' h.2
  (readSeconds? m.2).map fun s => ⟨days, h.1, m.1, s⟩

def read? : List Char → Option Parts
  | 'P' :: cs =>
    let d := readComponent 'D' cs
    match d.2 with
    | [] => d.1.map fun n => ⟨some n, none, none, none⟩
    | 'T' :: rest => if rest = [] then none else readTime? d.1 rest
    | _ => none
  | _ => none

/-! ### Reading what is written -/

variable {designator : Char} {n : Option Nat} {u rest : List Char}

/-- The first character of a text that is not one of the digits in front. -/
def stop? (cs : List Char) : Option Char := (cs.dropWhile Char.isDigit).head?

lemma Component.read (h : Component designator n u) (hd : designator.isDigit = false)
    (hrest : stop? rest ≠ some designator) : readComponent designator (u ++ rest) = (n, rest) := by
  cases h with
  | absent =>
    rw [List.nil_append, readComponent]
    rw [stop?] at hrest
    rcases hdrop : rest.dropWhile Char.isDigit with _ | ⟨c, more⟩
    · rfl
    · rw [hdrop, List.head?_cons] at hrest
      exact if_neg fun hc => hrest (congrArg some hc.1)
  | present n =>
    rw [List.append_assoc, List.singleton_append, readComponent,
      Numeral.dropWhile_digits_append n hd, Numeral.takeWhile_digits_append n hd]
    dsimp only
    rw [if_pos ⟨rfl, Numeral.digits_ne_nil n⟩, Numeral.value_digits]

/-- Other components are left alone. -/
lemma Component.stop?_ne (h : Component designator n u) (hd : designator.isDigit = false)
    {c : Char} (hc : designator ≠ c) (hrest : stop? rest ≠ some c) :
    stop? (u ++ rest) ≠ some c := by
  cases h with
  | absent => exact hrest
  | present n =>
    rw [List.append_assoc, List.singleton_append, stop?, Numeral.dropWhile_digits_append n hd,
      List.head?_cons]
    exact fun he => hc (Option.some.inj he)

lemma Seconds.stop?_ne {s : Option (Nat × List Char)} (h : Seconds s u) {c : Char} (hs : 'S' ≠ c)
    (hp : '.' ≠ c) : stop? u ≠ some c := by
  cases h with
  | absent => exact Option.some_ne_none c ∘ Eq.symm
  | whole n =>
    rw [stop?, Numeral.dropWhile_digits_append n rfl, List.head?_cons]
    exact fun he => hs (Option.some.inj he)
  | fractional n =>
    rw [stop?, Numeral.dropWhile_digits_append n rfl, List.head?_cons]
    exact fun he => hp (Option.some.inj he)

lemma readSeconds?_digits_append (n : Nat) {c : Char} (hc : c.isDigit = false) (rest : List Char) :
    readSeconds? (Numeral.digits n ++ c :: rest) =
      (readFraction? (c :: rest)).map fun fs => some (n, fs) := by
  obtain ⟨d, ds, hds⟩ := List.exists_cons_of_ne_nil
    (List.append_ne_nil_of_left_ne_nil (Numeral.digits_ne_nil n) (c :: rest))
  rw [hds, readSeconds?, ← hds, Numeral.takeWhile_digits_append n hc,
    Numeral.dropWhile_digits_append n hc, Numeral.value_digits]
  exact if_neg (Numeral.digits_ne_nil n)

lemma readFraction?_digits {fs : List Char} (hne : fs ≠ []) (hfs : ∀ c ∈ fs, c.isDigit = true) :
    readFraction? ('.' :: (fs ++ ['S'])) = some fs := by
  have htake : (fs ++ ['S']).takeWhile Char.isDigit = fs := by
    rw [List.takeWhile_append_of_pos hfs, List.takeWhile_cons_of_neg (by decide), List.append_nil]
  have hdrop : (fs ++ ['S']).dropWhile Char.isDigit = ['S'] := by
    rw [List.dropWhile_append_of_pos hfs, List.dropWhile_cons_of_neg (by decide)]
  rw [readFraction?, htake, hdrop, if_pos ⟨hne, rfl⟩]

lemma Seconds.read {s : Option (Nat × List Char)} (h : Seconds s u) : readSeconds? u = some s := by
  cases h with
  | absent => rfl
  | whole n =>
    rw [readSeconds?_digits_append n rfl]
    rfl
  | fractional n hne hfs =>
    rw [readSeconds?_digits_append n rfl, readFraction?_digits hne hfs, Option.map_some]

/-- **A written duration is read as its parts.** -/
theorem read?_of_written {p : Parts} {t : List Char} (h : Written p t) : read? t = some p := by
  cases h with
  | @date n u hd =>
    have hnone : stop? [] ≠ some 'D' := Option.some_ne_none 'D' ∘ Eq.symm
    have hread := hd.read rfl hnone
    rw [List.append_nil] at hread
    rw [read?, hread]
    rfl
  | @time p u h m s hd hh hm hs hne =>
    have hT : stop? ('T' :: (h ++ (m ++ s))) ≠ some 'D' := by
      intro he
      exact absurd (Option.some.inj he) (by decide)
    have hM : stop? s ≠ some 'M' := hs.stop?_ne (by decide) (by decide)
    have hH : stop? (m ++ s) ≠ some 'H' :=
      hm.stop?_ne rfl (by decide) (hs.stop?_ne (by decide) (by decide))
    have htime : readTime? p.days (h ++ (m ++ s)) = some p := by
      rw [readTime?, hh.read rfl hH, hm.read rfl hM, hs.read]
      rfl
    rw [read?, hd.read rfl hT]
    exact (if_neg hne).trans htime

end CallWatch.Duration
