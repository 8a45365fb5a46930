import CallWatch.Proofs.Demo.Crew

/-!
The workers one after the other.

The demo as it is run lets every worker come in and go out without a break. The events that this
brings to the monitor are those of the performance in which each worker takes all its turns
before the next one.
-/

namespace CallWatch.Demo

variable {o : DemoOptions} {e worker p : Nat} {m : Machine Envelope} {w : Watch}
  {bs : List (Block Envelope)}

lemma not_ready_of_length {n : Nat} {c : Control Envelope}
    (hc : m.control (thread worker).number = c) (hlength : c.blocks.length = n)
    (hn : n ≠ o.depth + 1) : ¬Ready o m worker := by
  rw [Ready, Machine.blocks, hc, hlength]
  exact hn

/-! ### One worker -/

/-- A worker comes in while nobody else takes a turn. -/
lemma comes (hm : m.Observed none e w) (hworker : worker < o.threads)
    (hc : m.control (thread worker).number = ⟨work o worker, []⟩) (now : Instant)
    (hp : p ≤ o.depth) :
    let m' := turns o false m (List.replicate (p + 1) (worker, now))
    m'.Observed none e (w.run (entries p now worker)) ∧ ∃ bs, Nested none e worker p bs ∧
      m'.control = setAt m.control (thread worker).number (inward o worker p bs) := by
  induction p with
  | zero =>
    have hgate : ¬Ready o m worker := not_ready_of_length hc rfl (Nat.succ_ne_zero _).symm
    rw [List.replicate_one, turns, List.foldl_cons, turn_of hworker (.inr hgate)]
    exact opens hm hc now
  | succ p ih =>
    obtain ⟨hm', bs, hbs, hcontrol⟩ := ih (Nat.le_of_lt hp)
    rw [List.replicate_succ', turns_append]
    set m' := turns o false m (List.replicate (p + 1) (worker, now))
    have hc' : m'.control (thread worker).number = inward o worker p bs := by
      rw [hcontrol, setAt_same]
    have hgate : ¬Ready o m' worker := not_ready_of_length hc' hbs.length (by omega)
    obtain ⟨hnext, bs', hbs', hcontrol'⟩ := goesDown hm' hbs hp hc' now
    have hentries : entries (p + 1) now worker = entries p now worker ++ [.enter (thread worker)
        (service (p + 1)) (pipeline worker (p + 1)) (.ok (state worker)) now] := by
      rw [entries, List.range_succ, List.map_append]
      rfl
    rw [turns, List.foldl_cons, List.foldl_nil, turn_of hworker (.inr hgate), hentries,
      Watch.run_append]
    refine ⟨hnext, bs', hbs', ?_⟩
    rw [hcontrol', hcontrol, setAt_setAt]

/-- A worker goes out while nobody else takes a turn. -/
lemma goes (hm : m.Observed none e w) (hworker : worker < o.threads)
    (hbs : Nested none e worker p bs) (hc : m.control (thread worker).number = outward o bs)
    (now : Instant) :
    let m' := turns o true m (List.replicate (p + 1) (worker, now))
    m'.Observed none e (w.run (exits p o.fail worker)) ∧
      m'.control = setAt m.control (thread worker).number (outward o []) := by
  induction p generalizing m w bs with
  | zero =>
    rw [List.replicate_one, turns, List.foldl_cons, turn_of hworker (.inl rfl)]
    exact closes hm hbs hc now
  | succ p ih =>
    obtain ⟨hnext, bs', hbs', hcontrol⟩ := goesUp hm hbs hc now
    obtain ⟨hend, hcontrol'⟩ := ih hnext hbs' (by rw [hcontrol, setAt_same])
    rw [List.replicate_succ, turns, List.foldl_cons, turn_of hworker (.inl rfl)]
    refine ⟨hend, ?_⟩
    rw [turns] at hcontrol'
    rw [hcontrol', hcontrol, setAt_setAt]

/-! ### One worker after the other -/

/-- Turns without a break for each of the workers below `k`. -/
def inTurn (o : DemoOptions) (now : Instant) (k : Nat) : List (Nat × Instant) :=
  (List.range k).flatMap fun worker => List.replicate (o.depth + 1) (worker, now)

lemma inTurn_succ (o : DemoOptions) (now : Instant) (k : Nat) :
    inTurn o now (k + 1) = inTurn o now k ++ List.replicate (o.depth + 1) (k, now) := by
  simp [inTurn, List.range_succ]

lemma flatMap_range_succ (f : Nat → List Event) (k : Nat) :
    (List.range (k + 1)).flatMap f = (List.range k).flatMap f ++ f k := by
  simp [List.range_succ]

lemma comeInTurn (hm : m.Observed none e w)
    (hc : ∀ worker, m.control (thread worker).number = ⟨work o worker, []⟩) (now : Instant)
    {k : Nat} (hk : k ≤ o.threads) :
    let m' := turns o false m (inTurn o now k)
    m'.Observed none e (w.run ((List.range k).flatMap (entries o.depth now))) ∧
      (∀ worker < k, ∃ bs, Nested none e worker o.depth bs ∧
        m'.control (thread worker).number = outward o bs) ∧
      ∀ worker, k ≤ worker → m'.control (thread worker).number = ⟨work o worker, []⟩ := by
  induction k with
  | zero => exact ⟨hm, fun _ h => absurd h (Nat.not_lt_zero _), fun worker _ => hc worker⟩
  | succ k ih =>
    obtain ⟨hm', hin, hout⟩ := ih (Nat.le_of_lt hk)
    obtain ⟨hnext, bs, hbs, hcontrol⟩ := comes hm' hk (hout k (Nat.le_refl k)) now (Nat.le_refl _)
    rw [inTurn_succ, turns_append, flatMap_range_succ, Watch.run_append]
    refine ⟨hnext, fun worker hworker => ?_, fun worker hworker => ?_⟩
    · rw [hcontrol]
      rcases Nat.lt_succ_iff_lt_or_eq.mp hworker with hlt | rfl
      · rw [setAt_of_ne _ _ (thread_number_ne (Nat.ne_of_lt hlt))]
        exact hin worker hlt
      · rw [setAt_same, inward_depth]
        exact ⟨bs, hbs, rfl⟩
    · rw [hcontrol, setAt_of_ne _ _ (thread_number_ne (Nat.ne_of_gt hworker))]
      exact hout worker (Nat.le_of_lt hworker)

lemma goInTurn (hm : m.Observed none e w)
    (hc : ∀ worker < o.threads, ∃ bs, Nested none e worker o.depth bs ∧
      m.control (thread worker).number = outward o bs) (now : Instant) {k : Nat}
    (hk : k ≤ o.threads) :
    let m' := turns o true m (inTurn o now k)
    m'.Observed none e (w.run ((List.range k).flatMap (exits o.depth o.fail))) ∧
      (∀ worker < k, m'.control (thread worker).number = outward o []) ∧
      ∀ worker < o.threads, k ≤ worker → ∃ bs, Nested none e worker o.depth bs ∧
        m'.control (thread worker).number = outward o bs := by
  induction k with
  | zero => exact ⟨hm, fun _ h => absurd h (Nat.not_lt_zero _), fun worker h _ => hc worker h⟩
  | succ k ih =>
    obtain ⟨hm', hout, hin⟩ := ih (Nat.le_of_lt hk)
    obtain ⟨bs, hbs, hcontrol⟩ := hin k hk (Nat.le_refl k)
    obtain ⟨hnext, hcontrol'⟩ := goes hm' hk hbs hcontrol now
    rw [inTurn_succ, turns_append, flatMap_range_succ, Watch.run_append]
    refine ⟨hnext, fun worker hworker => ?_, fun worker hworker hle => ?_⟩
    · rw [hcontrol']
      rcases Nat.lt_succ_iff_lt_or_eq.mp hworker with hlt | rfl
      · rw [setAt_of_ne _ _ (thread_number_ne (Nat.ne_of_lt hlt))]
        exact hout worker hlt
      · exact setAt_same _ _ _
    · rw [hcontrol', setAt_of_ne _ _ (thread_number_ne (Nat.ne_of_gt hle))]
      exact hin worker hworker (Nat.le_of_lt hle)

/-- What the demo comes to is what a performance comes to. -/
lemma performed_run (hw : w.Records fun _ => []) (hkept : w.monitor.WellKept w.renderer)
    (o : DemoOptions) (now later : Instant) :
    Performed o ⟨w, none⟩ now later (inTurn o now o.threads) (inTurn o later o.threads)
      (run o now later w).1 ⟨(run o now later w).2, none⟩ := by
  obtain ⟨hcome, hin, -⟩ := comeInTurn (observed_crew hw hkept none now) (fun _ => rfl) now
    (Nat.le_refl o.threads)
  -- the two machines are named, so that their computations stay closed
  generalize harrived : turns o false (crew o ⟨w, none⟩ now) (inTurn o now o.threads) = arrived
    at hcome hin
  obtain ⟨h, hreport, hobserved⟩ := hcome.report later
  obtain ⟨hgo, hout, -⟩ := goInTurn hobserved hin later (Nat.le_refl o.threads)
  generalize hgone : turns o true ⟨h, arrived.control⟩ (inTurn o later o.threads) = gone
    at hgo hout
  have hready : ∀ worker < o.threads, Ready o arrived worker := by
    intro worker hworker
    obtain ⟨bs, hbs, hcontrol⟩ := hin worker hworker
    rw [Ready, Machine.blocks, hcontrol]
    exact hbs.length
  have hperformed := Performed.intro harrived hready hreport hgone (ended_of_outward hout)
    hgo.attended.members
  rw [countP_failed, List.length_replicate] at hperformed
  exact hperformed

end CallWatch.Demo
