import CallWatch.Proofs.Demo.Books

/-!
The crew never gets stuck.

Every turn that a worker takes on the way in brings it one block further in, until it is ready, and
every turn on the way out brings it one block further out; the turns of the others do not matter. So
it is enough that everybody gets turns often enough.
-/

namespace CallWatch.Demo

variable {o : DemoOptions} {fixed : Option InvokeState} {e a b k : Nat} {m : Machine Envelope}
  {w : Watch}

/-- How many blocks a worker is inside of. -/
def blocksOf (m : Machine Envelope) (worker : Nat) : Nat := (m.blocks (thread worker).number).length

lemma blocksOf_eq {c : Control Envelope} (h : m.control (thread k).number = c) :
    blocksOf m k = c.blocks.length := by
  rw [blocksOf, Machine.blocks, h]

/-- How many turns a worker gets. -/
def turnsOf (worker : Nat) (schedule : List (Nat × Instant)) : Nat :=
  (schedule.map Prod.fst).count worker

lemma turnsOf_cons_self (s : Nat × Instant) (schedule : List (Nat × Instant)) :
    turnsOf s.1 (s :: schedule) = turnsOf s.1 schedule + 1 := List.count_cons_self

lemma turnsOf_cons_of_ne {s : Nat × Instant} (h : s.1 ≠ k) (schedule : List (Nat × Instant)) :
    turnsOf k (s :: schedule) = turnsOf k schedule := List.count_cons_of_ne h

/-! ### On the way in -/

namespace Coming

lemma blocksOf_le (h : Coming o fixed e a b m w) (hk : k < o.threads) :
    blocksOf m k ≤ o.depth + 1 := by
  have hinward := h.workers k hk
  rw [blocksOf, Machine.blocks]
  generalize m.control (thread k).number = c at hinward
  cases hinward with
  | outside => exact Nat.zero_le _
  | nested hp hbs =>
    rw [inward, hbs.length]
    exact Nat.succ_le_succ hp

lemma blocksOf_turn (h : Coming o fixed e a b m w) {s : Nat × Instant} (hs : s.1 < o.threads)
    (hwaits : ¬Ready o m s.1) : blocksOf (Demo.turn o false m s) s.1 = blocksOf m s.1 + 1 := by
  obtain ⟨k, now⟩ := s
  have hinward := h.workers k hs
  rw [turn_of hs (.inr hwaits)]
  generalize hc : m.control (thread k).number = c at hinward
  cases hinward with
  | outside =>
    obtain ⟨-, bs, hbs, hcontrol⟩ := opens h.observed hc now
    rw [blocksOf_eq hc, blocksOf_eq ((congrFun hcontrol _).trans (setAt_same _ _ _))]
    exact hbs.length
  | @nested p bs hp hbs =>
    have hlt : p < o.depth := by
      rw [Ready, Machine.blocks, hc, inward, hbs.length] at hwaits
      omega
    obtain ⟨-, bs', hbs', hcontrol⟩ := goesDown h.observed hbs hlt hc now
    rw [blocksOf_eq hc, blocksOf_eq ((congrFun hcontrol _).trans (setAt_same _ _ _))]
    exact hbs'.length.trans (congrArg (· + 1) hbs.length.symm)

lemma min_le_blocksOf (h : Coming o fixed e a b m w) (hk : k < o.threads)
    (schedule : List (Nat × Instant)) :
    min (o.depth + 1) (blocksOf m k + turnsOf k schedule) ≤
      blocksOf (Demo.turns o false m schedule) k := by
  induction schedule generalizing m w with
  | nil => exact Nat.min_le_right _ _
  | cons s schedule ih =>
    obtain ⟨w', h'⟩ := h.turn s
    refine Nat.le_trans ?_ (ih h')
    by_cases hs : s.1 = k
    · subst hs
      rw [turnsOf_cons_self]
      by_cases hready : Ready o m s.1
      · have hsame : Demo.turn o false m s = m := if_neg (by simp [hready])
        have hfull : blocksOf m s.1 = o.depth + 1 := hready
        rw [hsame, hfull]
        omega
      · rw [h.blocksOf_turn hk hready]
        omega
    · rw [turnsOf_cons_of_ne hs, blocksOf, blocksOf, blocks_turn_of_ne hs]

/-- A worker that gets one turn more than there are levels becomes ready. -/
lemma ready (h : Coming o fixed e a b m w) (hk : k < o.threads)
    {schedule : List (Nat × Instant)} (hturns : o.depth < turnsOf k schedule) :
    Ready o (Demo.turns o false m schedule) k := by
  obtain ⟨w', h'⟩ := h.turns schedule
  have hmin := h.min_le_blocksOf hk schedule
  have hle := h'.blocksOf_le hk
  rw [Nat.min_eq_left (by omega)] at hmin
  exact Nat.le_antisymm hle hmin

end Coming

/-! ### On the way out -/

namespace Going

lemma blocksOf_turn (h : Going o fixed e a b m w) {s : Nat × Instant} (hs : s.1 < o.threads) :
    blocksOf (Demo.turn o true m s) s.1 = blocksOf m s.1 - 1 := by
  obtain ⟨k, now⟩ := s
  have houtward := h.workers k hs
  rw [turn_of hs (.inl rfl)]
  generalize hc : m.control (thread k).number = c at houtward
  cases houtward with
  | outside =>
    rw [Machine.turn_ended hc, blocksOf_eq hc]
    rfl
  | @nested p bs hbs =>
    cases p with
    | zero =>
      obtain ⟨-, hcontrol⟩ := closes h.observed hbs hc now
      rw [blocksOf_eq hc, blocksOf_eq ((congrFun hcontrol _).trans (setAt_same _ _ _))]
      exact (congrArg (· - 1) hbs.length).symm
    | succ p =>
      obtain ⟨-, bs', hbs', hcontrol⟩ := goesUp h.observed hbs hc now
      rw [blocksOf_eq hc, blocksOf_eq ((congrFun hcontrol _).trans (setAt_same _ _ _))]
      exact hbs'.length.trans (congrArg (· - 1) hbs.length).symm

lemma blocksOf_turns (h : Going o fixed e a b m w) (hk : k < o.threads)
    (schedule : List (Nat × Instant)) :
    blocksOf (Demo.turns o true m schedule) k = blocksOf m k - turnsOf k schedule := by
  induction schedule generalizing m w with
  | nil => rfl
  | cons s schedule ih =>
    obtain ⟨w', h'⟩ := h.turn s
    refine (ih h').trans ?_
    by_cases hs : s.1 = k
    · subst hs
      rw [turnsOf_cons_self, h.blocksOf_turn hk]
      omega
    · rw [turnsOf_cons_of_ne hs, blocksOf, blocksOf, blocks_turn_of_ne hs]

/-- A worker that gets a turn for every block has ended. -/
lemma ended (h : Going o fixed e a b m w) (hk : k < o.threads) {schedule : List (Nat × Instant)}
    (hturns : blocksOf m k ≤ turnsOf k schedule) :
    (Demo.turns o true m schedule).control (thread k).number = outward o [] := by
  obtain ⟨w', h'⟩ := h.turns schedule
  have houtward := h'.workers k hk
  have hzero : blocksOf (Demo.turns o true m schedule) k = 0 := by
    rw [h.blocksOf_turns hk, Nat.sub_eq_zero_of_le hturns]
  rw [blocksOf, Machine.blocks] at hzero
  generalize (Demo.turns o true m schedule).control (thread k).number = c at houtward hzero
  cases houtward with
  | outside => rfl
  | nested hbs =>
    rw [outward, hbs.length] at hzero
    exact absurd hzero (Nat.succ_ne_zero _)

end Going

/-- Whatever the order of the turns, if everybody has enough of them, there is a performance. -/
lemma exists_performed (hw : w.Records fun _ => []) (hkept : w.monitor.WellKept w.renderer)
    (fixed : Option InvokeState) (now later : Instant) {arriving leaving : List (Nat × Instant)}
    (harriving : ∀ worker < o.threads, o.depth < turnsOf worker arriving)
    (hleaving : ∀ worker < o.threads, o.depth < turnsOf worker leaving) :
    ∃ out left, Performed o ⟨w, fixed⟩ now later arriving leaving out left := by
  have hcoming := coming_crew (o := o) hw hkept fixed now
  obtain ⟨w', hgate⟩ := hcoming.turns arriving
  have hready := fun worker hworker => hcoming.ready hworker (harriving worker hworker)
  obtain ⟨host, hreport, hobserved⟩ := hgate.observed.report later
  have hgoing := hgate.going hready hobserved
  obtain ⟨w'', hgone⟩ := hgoing.turns leaving
  have hout := fun worker hworker =>
    hgoing.ended hworker ((hready worker hworker).trans_le (hleaving worker hworker))
  exact ⟨_, _, .intro rfl hready hreport rfl (ended_of_outward hout) hgone.observed.attended.members⟩

end CallWatch.Demo
