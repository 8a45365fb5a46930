import CallWatch.Proofs.Monitor.Race.Threads

/-!
Whatever threads do at the same time, a monitor at rest is exact.

Epochs are opened in turn by stops, in which no call is registered, and by starts. A start
counts as open only when it has cleared the registry and stored its time, a stop ends it by
storing that there is none: so calls are registered in no epoch but an open one, and what a
thread does too late goes to an epoch that is over. This holds at every step; where nobody is
in the middle of anything it says what the registry and the counters are.
-/

namespace CallWatch

open Registry

/-! ### Single entries -/

namespace Registry

variable {r : Registry} {n m : Nat}

lemma stack_without_same : stack n (r.without n) = [] := by
  refine stack_eq_nil fun hn => ?_
  obtain ⟨i, hi, he⟩ := List.mem_map.mp hn
  simpa [he] using (List.mem_filter.mp hi).2

lemma stack_without_of_ne (h : m ≠ n) : stack m (r.without n) = stack m r := by
  induction r with
  | nil => rfl
  | cons i r ih =>
    rw [without] at ih ⊢
    by_cases hi : i.thread.number = n
    · have hm : i.thread.number ≠ m := fun he => h (he.symm.trans hi)
      rw [List.filter_cons_of_neg (by simpa using hi), ih, stack, if_neg hm]
    · rw [List.filter_cons_of_pos (by simpa using hi), stack, stack, ih]

lemma Sound.without (h : r.Sound) (n : Nat) : Sound (r.without n) :=
  ⟨h.numbers_nodup.sublist (List.filter_sublist.map _),
    fun i hi => h.frames_ne_nil i (List.mem_filter.mp hi).1⟩

end Registry

namespace Race

/-! ### The lock -/

namespace Lock

/-- Whether calls can be registered, if the epoch is one of a start. -/
def Opens : Lock → Bool
  | store c => !c.starts
  | sweep _ _ => false
  | _ => true

/-- Whether the entry of a thread is not to be cleared any more. -/
def Settled (n : Nat) : Lock → Prop
  | sweep _ visited => n ∈ visited
  | _ => True

/-- How far a start or a stop has come, by what it has stored so far. -/
def Agrees (on : Bool) (epoch : Nat) (j : Journal) : Lock → Prop
  | free | check _ => on = j.started ∧ epoch + j.started.toNat = 2 * j.starts
  | store c => on = !c.starts ∧ j.started = !c.starts ∧
      epoch + j.started.toNat = 2 * j.starts + c.starts.toNat
  | load c => on = false ∧ j.started = !c.starts ∧ epoch + j.started.toNat = 2 * j.starts
  | swap c e => e = epoch ∧ on = false ∧ j.started = !c.starts ∧
      epoch + j.started.toNat = 2 * j.starts
  | sweep c _ => on = false ∧ j.started = !c.starts ∧
      epoch + j.started.toNat = 2 * j.starts + 1

/-- A monitor that is started is in an epoch of a start, which is open. -/
lemma Agrees.open {l : Lock} {epoch : Nat} {j : Journal} (h : l.Agrees true epoch j) :
    epoch % 2 = 1 ∧ l.Opens = true := by
  cases l with
  | free | check c =>
    obtain ⟨hs, he⟩ := h
    rw [← hs, Bool.toNat_true] at he
    exact ⟨by omega, rfl⟩
  | store c =>
    obtain ⟨hs, hj, he⟩ := h
    rw [hj, ← hs] at he
    have hc : c.starts = false := by simpa using hs.symm
    rw [hc, Bool.toNat_true, Bool.toNat_false] at he
    exact ⟨by omega, by simp [Opens, hc]⟩
  | load c | sweep c visited => exact absurd h.1 (by simp)
  | swap c e => exact absurd h.2.1 (by simp)

end Lock

/-! ### The invariant -/

/-- A call that is registered in an epoch. -/
def countsIn (epoch : Nat) (v : Visit) : Bool := v.registered && v.activation == activation epoch

lemma countsIn_iff {n epoch : Nat} {k : Option Ticket} {v : Visit} (h : Issued n k v) :
    countsIn epoch v = true ↔ ∃ t, k = some t ∧ t.epoch = epoch := by
  cases h with
  | unregistered hv => simp [countsIn, hv]
  | registered hv ha he ht =>
    rw [countsIn, hv, ha, Bool.true_and, beq_iff_eq, eq_comm, activation_eq_some]
    simp only [Option.some.injEq, exists_eq_left']
    omega

lemma countsIn_issued {n epoch : Nat} {k : Ticket} {v : Visit} (h : Issued n (some k) v) :
    countsIn epoch v = decide (k.epoch = epoch) := by
  rw [Bool.eq_iff_iff, countsIn_iff h]
  simp

/-- Whether the monitor is started after the starts and stops so far. -/
def startedAfter : List (Change × Bool) → Bool
  | [] => false
  | (c, _) :: _ => c.starts

/-- A start is answered yes exactly after a stop or at first, a stop exactly after a start. -/
def Truthful : List (Change × Bool) → Prop
  | [] => True
  | (c, b) :: earlier => b = (c.starts != startedAfter earlier) ∧ Truthful earlier

/-- What thread `n` makes of the memory: it leaves the epoch, and the stacks of the others. -/
structure Memory.Becomes (n : Nat) (m m' : Memory) : Prop where
  epoch : m'.epoch = m.epoch
  startMillis : m'.startMillis = m.startMillis
  stack : ∀ i, i ≠ n → stack i m'.registry = stack i m.registry
  numbered : m'.monitor.Numbered
  sound : m'.registry.Sound

namespace State

/-- Calls have been registered in the epochs that are over, and may be in the current one if it
is open. -/
def Live (s : State) (e : Nat) : Prop :=
  e < s.memory.epoch ∨ e = s.memory.epoch ∧ e % 2 = 1 ∧ s.lock.Opens = true

def FitsAt (s : State) (n : Nat) : Prop :=
  Fits n s.memory.epoch s.Live (s.lock.Settled n) (s.phase n) (s.unfinished n)
    (Visit.unfinished n s.journal.visits) (stack n s.memory.registry)

structure Consistent (s : State) : Prop where
  lock : s.lock.Agrees s.memory.isStarted s.memory.epoch s.journal
  numbered : s.memory.monitor.Numbered
  sound : s.memory.registry.Sound
  fits : ∀ n, s.FitsAt n
  activation_le : ∀ v ∈ s.journal.visits, ∀ a, v.activation = some a → 2 * a ≤ s.memory.epoch + 1
  invocations : s.memory.monitor.invocations = s.journal.visits.countP (countsIn s.memory.epoch)
  errors : s.memory.monitor.errors =
    s.journal.visits.countP fun v => countsIn s.memory.epoch v && v.ended == some true
  answers : Truthful s.answers
  started : s.journal.started = startedAfter s.answers

variable {s s' : State} {n : Nat}

lemma Live.le {e : Nat} (h : s.Live e) : e ≤ s.memory.epoch := by
  rcases h with h | h
  · exact Nat.le_of_lt h
  · exact Nat.le_of_eq h.1

lemma Live.odd (h : s.Live s.memory.epoch) : s.memory.epoch % 2 = 1 := by
  rcases h with h | h
  · exact absurd h (Nat.lt_irrefl _)
  · exact h.2.1

lemma Consistent.fits_of (h : s.Consistent) {p : Phase} (hp : s.phase n = p) :
    Fits n s.memory.epoch s.Live (s.lock.Settled n) p (s.unfinished n)
      (Visit.unfinished n s.journal.visits) (stack n s.memory.registry) := hp ▸ h.fits n

lemma consistent_init : init.Consistent where
  lock := ⟨rfl, rfl⟩
  numbered := Monitor.numbered_init
  sound := sound_nil
  fits _ := Fits.init
  activation_le := by simp [init, Journal.empty]
  invocations := rfl
  errors := rfl
  answers := trivial
  started := rfl

/-! ### Steps of threads -/

lemma Consistent.same (h : s.Consistent) (n : Nat) : s.memory.Becomes n s.memory :=
  ⟨rfl, rfl, fun _ _ => rfl, h.numbered, h.sound⟩

lemma Consistent.pushed (h : s.Consistent) {t : Thread} (a : Arrival) (st : InvokeState)
    (ht : t.number = n) : s.memory.Becomes n { s.memory with
      registry := s.memory.registry.push t (a.frame st s.memory.nextSerial)
      nextSerial := s.memory.nextSerial + 1 } :=
  ⟨rfl, rfl, fun _ hi => stack_push_of_ne (ht ▸ hi), h.numbered.of_push rfl rfl rfl rfl,
    h.sound.push _ _⟩

lemma Consistent.popped (h : s.Consistent) {k : Ticket} (hk : k.thread = n) :
    s.memory.Becomes n
      { s.memory with registry := s.memory.registry.pop k.thread k.serial } :=
  ⟨rfl, rfl, fun _ hi => stack_pop_of_ne (hk ▸ hi),
    h.numbered.of_sublist frames_pop_sublist rfl rfl, h.sound.pop _ _⟩

lemma Consistent.counted (h : s.Consistent) (n e : Nat) :
    s.memory.Becomes n (s.memory.counted e) :=
  ⟨rfl, rfl, fun _ _ => rfl, h.numbered.of_sublist (.refl _) rfl rfl, h.sound⟩

lemma Consistent.failed (h : s.Consistent) (n e : Nat) :
    s.memory.Becomes n (s.memory.failed e) :=
  ⟨rfl, rfl, fun _ _ => rfl, h.numbered.of_sublist (.refl _) rfl rfl, h.sound⟩

/-- All is known of a state by thread `n` once the thread itself is. -/
lemma Consistent.of_thread (h : s.Consistent) (hm : s.memory.Becomes n s'.memory)
    (hlock : s'.lock = s.lock) (hanswers : s'.answers = s.answers)
    (hjournal : s'.journal = { s.journal with visits := s'.journal.visits })
    (hothers : ∀ i, i ≠ n → s'.phase i = s.phase i ∧ s'.unfinished i = s.unfinished i ∧
      Visit.unfinished i s'.journal.visits = Visit.unfinished i s.journal.visits)
    (hfits : Fits n s.memory.epoch s.Live (s.lock.Settled n) (s'.phase n) (s'.unfinished n)
      (Visit.unfinished n s'.journal.visits) (stack n s'.memory.registry))
    (hactivation : ∀ v ∈ s'.journal.visits, ∀ a, v.activation = some a →
      2 * a ≤ s.memory.epoch + 1)
    (hinvocations : s'.memory.monitor.invocations =
      s'.journal.visits.countP (countsIn s.memory.epoch))
    (herrors : s'.memory.monitor.errors = s'.journal.visits.countP fun v =>
      countsIn s.memory.epoch v && v.ended == some true) : s'.Consistent := by
  have hlive : s'.Live = s.Live := by
    unfold Live
    rw [hm.epoch, hlock]
  have hstarted : s'.memory.isStarted = s.memory.isStarted := by
    rw [Memory.isStarted, Memory.isStarted, hm.startMillis]
  refine ⟨?_, hm.numbered, hm.sound, fun i => ?_, hm.epoch ▸ hactivation, hm.epoch ▸ hinvocations,
    hm.epoch ▸ herrors, hanswers ▸ h.answers, ?_⟩
  · rw [hlock, hstarted, hm.epoch, hjournal]
    exact h.lock
  · rw [FitsAt, hm.epoch, hlive, hlock]
    by_cases hi : i = n
    · exact hi ▸ hfits
    · obtain ⟨hp, hu, hv⟩ := hothers i hi
      rw [hp, hu, hv, hm.stack i hi]
      exact h.fits i
  · rw [hjournal, hanswers]
    exact h.started

/-- A thread goes on. -/
lemma Consistent.goto (h : s.Consistent) {m : Memory} {p : Phase} (hm : s.memory.Becomes n m)
    (ht : m.tallies = s.memory.tallies)
    (hf : Fits n s.memory.epoch s.Live (s.lock.Settled n) p (s.unfinished n)
      (Visit.unfinished n s.journal.visits) (stack n m.registry)) :
    Consistent { s.goto n p with memory := m } := by
  refine h.of_thread hm rfl rfl rfl (fun i hi => ⟨setAt_of_ne _ _ hi, rfl, rfl⟩) ?_
    h.activation_le ?_ ?_
  · simpa only [State.goto, setAt_same] using hf
  · simpa only [Memory.monitor, State.goto, ht, hm.epoch] using h.invocations
  · simpa only [Memory.monitor, State.goto, ht, hm.epoch] using h.errors

/-- A call is registered or passed over. -/
lemma Consistent.entered (h : s.Consistent) {m : Memory} {k : Option Ticket} {v : Visit}
    (hm : s.memory.Becomes n m) (hn : v.thread = n) (he : v.ended = none)
    (ha : ∀ a, v.activation = some a → 2 * a ≤ s.memory.epoch + 1)
    (hi : m.monitor.invocations =
      s.memory.monitor.invocations + (countsIn s.memory.epoch v).toNat)
    (hr : m.monitor.errors = s.memory.monitor.errors)
    (hf : Fits n s.memory.epoch s.Live (s.lock.Settled n) .idle (k :: s.unfinished n)
      (v :: Visit.unfinished n s.journal.visits) (stack n m.registry)) :
    Consistent { s.entered n k v with memory := m } := by
  refine h.of_thread hm rfl rfl rfl (fun i hi => ⟨setAt_of_ne _ _ hi, setAt_of_ne _ _ hi, ?_⟩) ?_
    (fun u hu => ?_) ?_ ?_
  · exact Visit.unfinished_cons_neg fun hc => hi (hc.1.symm.trans hn)
  · simp only [State.entered, State.goto, setAt_same]
    rw [Visit.unfinished_cons_pos ⟨hn, he⟩]
    exact hf
  · rcases List.mem_cons.mp hu with rfl | hu
    · exact ha
    · exact h.activation_le u hu
  · simp only [State.entered, List.countP_cons]
    rw [hi, h.invocations]
    cases countsIn s.memory.epoch v <;> simp
  · simp only [State.entered, List.countP_cons, he]
    rw [hr, h.errors]
    simp

/-- A call is over. -/
lemma Consistent.left (h : s.Consistent) {m : Memory} {failed : Bool} {v : Visit}
    {vs : List Visit} (hm : s.memory.Becomes n m)
    (hv : Visit.unfinished n s.journal.visits = v :: vs)
    (hi : m.monitor.invocations = s.memory.monitor.invocations)
    (hr : m.monitor.errors =
      s.memory.monitor.errors + (failed && countsIn s.memory.epoch v).toNat)
    (hf : Fits n s.memory.epoch s.Live (s.lock.Settled n) .idle (s.unfinished n).tail vs
      (stack n m.registry)) :
    Consistent { s.left n failed with memory := m } := by
  have hcount (p : Visit → Bool) := Visit.countP_finish failed p hv
  have hended := Visit.ended_of_unfinished hv
  refine h.of_thread hm rfl rfl rfl (fun i hi => ⟨setAt_of_ne _ _ hi, setAt_of_ne _ _ hi, ?_⟩) ?_
    (fun u hu a ha => ?_) ?_ ?_
  · exact Visit.unfinished_finish_of_ne hi
  · simp only [State.left, State.goto, setAt_same, Journal.visits_note_leave]
    rw [Visit.unfinished_finish_same, hv]
    exact hf
  · obtain ⟨u', hu', he⟩ := Visit.mem_finish hu
    exact h.activation_le u' hu' a (he.trans ha)
  · have := hcount (countsIn s.memory.epoch)
    have hc : countsIn s.memory.epoch { v with ended := some failed } =
      countsIn s.memory.epoch v := rfl
    rw [hc] at this
    simp only [State.left, Journal.visits_note_leave, hi, h.invocations]
    omega
  · have := hcount fun v => countsIn s.memory.epoch v && v.ended == some true
    have hc : countsIn s.memory.epoch { v with ended := some failed } =
      countsIn s.memory.epoch v := rfl
    simp only [State.left, Journal.visits_note_leave, hr, h.errors]
    cases failed <;> simpa [hc, hended] using this.symm

/-! ### Registering -/

lemma Consistent.check (h : s.Consistent) {a : Arrival} {e : Nat} (hp : s.phase n = .check a e) :
    (s.advance n).Consistent := by
  have hf := h.fits_of hp
  obtain ⟨hn, hle, -⟩ := hf.phase
  have hpass {v : Visit} (hv : v.registered = false) :
      (countsIn s.memory.epoch v).toNat = 0 := by simp [countsIn, hv]
  rw [advance, hp]
  simp only
  split_ifs with hs
  · rcases hst : a.state with error | st
    · have hv : (a.visit (activation e)).registered = false := by
        simp [Visit.registered, Arrival.visit, hst, Except.isOk, Except.toBool]
      refine h.entered (h.same n) hn rfl (fun b hb => ?_) (by rw [hpass hv]; rfl) rfl (hf.pass hv)
      have := activation_eq_some.mp hb
      omega
    · refine h.goto (h.same n) rfl (hf.check hst ?_)
      have hopen := Lock.Agrees.open (hs ▸ h.lock)
      rcases Nat.lt_or_eq_of_le hle with hlt | rfl
      · exact Or.inl hlt
      · exact Or.inr ⟨rfl, hopen⟩
  · exact h.entered (h.same n) hn rfl (by simp [Arrival.visit]) (by rw [hpass rfl]; rfl) rfl
      (hf.pass rfl)

lemma Consistent.push (h : s.Consistent) {a : Arrival} {st : InvokeState} {e : Nat}
    (hp : s.phase n = .push a st e) : (s.advance n).Consistent := by
  have hf := h.fits_of hp
  have hn := hf.phase.1
  rw [advance, hp]
  refine h.goto (h.pushed a st hn) rfl ?_
  simp only
  rw [← hn, stack_push_same, hn]
  exact hf.push Live.odd _

lemma Consistent.compare (h : s.Consistent) {a : Arrival} {k : Ticket}
    (hp : s.phase n = .compare a k) : (s.advance n).Consistent := by
  have hf := h.fits_of hp
  have hle := Live.le hf.phase.2.2.2.1
  rw [advance, hp]
  simp only
  split_ifs with he
  · exact h.goto (h.same n) rfl (hf.compare_eq Live.odd he)
  · exact h.goto (h.same n) rfl (hf.compare_lt (Nat.lt_of_le_of_ne hle he))

lemma Consistent.undo (h : s.Consistent) {a : Arrival} {k : Ticket}
    (hp : s.phase n = .undo a k) : (s.advance n).Consistent := by
  have hf := h.fits_of hp
  obtain ⟨hn, hk, -⟩ := hf.phase
  rw [advance, hp]
  refine h.entered (h.popped hk) hn rfl (by simp [Arrival.visit]) ?_ rfl ?_
  · simp [countsIn, Visit.registered, Arrival.visit, Memory.monitor]
  · simp only [hk]
    rw [h.sound.stack_pop_same]
    exact hf.undo

lemma Consistent.count (h : s.Consistent) {a : Arrival} {k : Ticket}
    (hp : s.phase n = .count a k) : (s.advance n).Consistent := by
  have hf := h.fits_of hp
  obtain ⟨hn, hl, -, hi⟩ := hf.phase
  have hle := hl.le
  rw [advance, hp]
  refine h.entered (h.counted n k.epoch) hn rfl (fun b hb => ?_) ?_ ?_ (hf.count Live.le)
  · have := activation_eq_some.mp hb
    omega
  · rw [Memory.invocations_counted, countsIn_issued hi]
  · exact Memory.errors_counted

/-! ### Completing -/

/-- A call ends that leaves nothing behind: it has no ticket, or one of an epoch that is over. -/
lemma Consistent.left_past (h : s.Consistent) {k : Option Ticket} {ks : List (Option Ticket)}
    (failed : Bool) (hp : s.phase n = .idle) (hu : s.unfinished n = k :: ks)
    (hk : ∀ t, k = some t → t.epoch ≠ s.memory.epoch) : (s.left n failed).Consistent := by
  have hf := h.fits_of hp
  rw [hu] at hf
  obtain ⟨v, vs, hi, -, hv⟩ := List.forall₂_cons_left_iff.mp hf.issued
  have hc : countsIn s.memory.epoch v = false := by
    rw [← Bool.not_eq_true, countsIn_iff hi]
    rintro ⟨t, ht, he⟩
    exact hk t ht he
  refine h.left (m := s.memory) (h.same n) hv rfl (by simp [hc]) ?_
  rw [hv] at hf
  rw [hu]
  exact hf.leave_past hk

lemma Consistent.leave (h : s.Consistent) (n : Nat) (failed : Bool) :
    (s.leave n failed).Consistent := by
  unfold State.leave
  split
  · rename_i ks hp hu
    exact h.left_past failed hp hu (by simp)
  · rename_i k ks hp hu
    split_ifs with he
    · have hf := h.fits_of hp
      rw [hu] at hf
      exact h.goto (h.same n) rfl (hu ▸ hf.leave_current failed)
    · exact h.left_past failed hp hu fun t ht => Option.some.inj ht ▸ he
  · exact h

lemma Consistent.pop (h : s.Consistent) {k : Ticket} {failed : Bool}
    (hp : s.phase n = .pop k failed) : (s.advance n).Consistent := by
  have hf := h.fits_of hp
  obtain ⟨hk, -, rest, hu⟩ := hf.phase
  have hpop := hf.pop
  rw [← h.sound.stack_pop_same] at hpop
  rw [advance, hp]
  cases failed with
  | true =>
    refine h.goto (h.popped hk) rfl ?_
    simp only [hk]
    exact hpop
  | false =>
    obtain ⟨v, vs, -, -, hv⟩ := List.forall₂_cons_left_iff.mp (hu ▸ hf.issued)
    refine h.left (h.popped hk) hv rfl rfl ?_
    rw [hv] at hpop
    simp only [hk]
    exact hpop.fail

lemma Consistent.fail (h : s.Consistent) {k : Ticket} (hp : s.phase n = .fail k) :
    (s.advance n).Consistent := by
  have hf := h.fits_of hp
  obtain ⟨-, -, rest, hu⟩ := hf.phase
  obtain ⟨v, vs, hi, -, hv⟩ := List.forall₂_cons_left_iff.mp (hu ▸ hf.issued)
  rw [advance, hp]
  refine h.left (h.failed n k.epoch) hv Memory.invocations_failed ?_ ?_
  · rw [Memory.errors_failed, countsIn_issued hi, Bool.true_and]
  · have hfail := hf.fail
    rw [hv] at hfail
    exact hfail

lemma Consistent.advance (h : s.Consistent) (n : Nat) : (s.advance n).Consistent := by
  rcases hp : s.phase n with _ | ⟨a, e⟩ | ⟨a, st, e⟩ | ⟨a, k⟩ | ⟨a, k⟩ | ⟨a, k⟩ | ⟨k, failed⟩ | k
  · rw [State.advance, hp]
    exact h
  · exact h.check hp
  · exact h.push hp
  · exact h.compare hp
  · exact h.undo hp
  · exact h.count hp
  · exact h.pop hp
  · exact h.fail hp

lemma Consistent.arrive (h : s.Consistent) (a : Arrival) : (s.arrive a).Consistent := by
  unfold State.arrive
  split
  · rename_i hp
    exact h.goto (h.same _) rfl ((h.fits_of hp).arrive rfl)
  · exact h

/-! ### Steps under the lock -/

/-- A step that leaves the threads, their calls and the counters alone. -/
lemma Consistent.of_lock (h : s.Consistent) (hphase : s'.phase = s.phase)
    (hunfinished : s'.unfinished = s.unfinished) (hvisits : s'.journal.visits = s.journal.visits)
    (hmemory : s'.memory = { s.memory with startMillis := s'.memory.startMillis })
    (hlock : s'.lock.Agrees s'.memory.isStarted s.memory.epoch s'.journal)
    (hopens : s.lock.Opens = true → s'.lock.Opens = true)
    (hsettled : ∀ n, s'.lock.Settled n → s.lock.Settled n ∨
      s.lock.Opens = false ∧ stack n s.memory.registry = [])
    (hanswers : Truthful s'.answers) (hstarted : s'.journal.started = startedAfter s'.answers) :
    s'.Consistent := by
  have hepoch : s'.memory.epoch = s.memory.epoch := by rw [hmemory]
  have hregistry : s'.memory.registry = s.memory.registry := by rw [hmemory]
  have hlive : ∀ e, s.Live e → s'.Live e := by
    intro e he
    unfold Live
    rw [hepoch]
    exact he.imp_right fun hc => ⟨hc.1, hc.2.1, hopens hc.2.2⟩
  refine ⟨hepoch ▸ hlock, ?_, hregistry ▸ h.sound, fun n => ?_, ?_, ?_, ?_, hanswers, hstarted⟩
  · rw [hmemory]
    exact h.numbered.of_sublist (.refl _) rfl rfl
  · rw [FitsAt, hepoch, hphase, hunfinished, hvisits, hregistry]
    by_cases hs : s'.lock.Settled n
    · rcases hsettled n hs with hs' | ⟨hclosed, hnil⟩
      · exact (h.fits n).mono hlive fun _ => hs'
      · -- the entry was gone before its turn, and while entries are cleared no call is registered
        have hover : ∀ e, s.Live e → e < s.memory.epoch := fun e he =>
          he.resolve_right fun hc => by simp [hclosed] at hc
        rw [hnil]
        exact ((h.fits n).clear hover).mono hlive id
    · exact (h.fits n).mono hlive fun hc => absurd hc hs
  · rw [hepoch, hvisits]
    exact h.activation_le
  · rw [hmemory, hvisits]
    exact h.invocations
  · rw [hmemory, hvisits]
    exact h.errors

lemma Consistent.seize (h : s.Consistent) (c : Change) : (s.seize c).Consistent := by
  unfold State.seize
  split
  · rename_i hl
    have hlock := h.lock
    rw [hl] at hlock
    exact h.of_lock rfl rfl rfl rfl hlock (fun _ => rfl) (fun _ _ => Or.inl (hl ▸ trivial))
      h.answers h.started
  · exact h

lemma note_event_of_eq {j : Journal} {c : Change} (h : j.started = c.starts) :
    j.note c.event = j := by
  cases c with
  | start now => exact if_pos h
  | stop => simp only [Journal.note, Change.event, ← show j.started = false from h]

lemma note_event_of_ne {j : Journal} {c : Change} (h : j.started = !c.starts) :
    j.note c.event = { j with starts := j.starts + c.starts.toNat, started := c.starts } := by
  cases c with
  | start now => exact if_neg (by rw [h]; exact Bool.false_ne_true)
  | stop => rfl

lemma isSome_millis (c : Change) : c.millis.isSome = c.starts := by
  cases c <;> rfl

/-- A change of the other kind than the last one is answered yes. -/
lemma Consistent.truthful (h : s.Consistent) {c : Change} (hc : s.journal.started = !c.starts) :
    Truthful ((c, true) :: s.answers) := by
  refine ⟨?_, h.answers⟩
  rw [← h.started, hc]
  cases c.starts <;> rfl

lemma Consistent.lock_check (h : s.Consistent) {c : Change} (hl : s.lock = .check c) :
    s.proceed.Consistent := by
  have hlock := h.lock
  rw [hl] at hlock
  obtain ⟨hon, he⟩ := hlock
  have hsettled (n : Nat) : s.lock.Settled n := hl ▸ trivial
  simp only [State.proceed, hl]
  split_ifs with hs hc
  · have hj := note_event_of_eq (hon.symm.trans hs)
    refine h.of_lock rfl rfl (by rw [State.answered, hj]) rfl ?_ (fun _ => rfl)
      (fun n _ => Or.inl (hsettled n)) ⟨?_, h.answers⟩ ?_
    · rw [State.answered, hj]
      exact ⟨hon, he⟩
    · rw [← h.started, ← hon, hs]
      exact (bne_self_eq_false _).symm
    · rw [State.answered, hj]
      exact hon.symm.trans hs
  · have hoff : s.memory.isStarted = false := by simpa [hc] using hs
    exact h.of_lock rfl rfl rfl rfl ⟨hoff, by simp [← hon, hoff, hc], he⟩ (fun _ => rfl)
      (fun n _ => Or.inl (hsettled n)) h.answers h.started
  · have hc' : c.starts = false := by simpa using hc
    have hson : s.memory.isStarted = true := by simpa [hc'] using hs
    exact h.of_lock rfl rfl rfl rfl
      ⟨by simp [hson, hc'], by simp [← hon, hson, hc'], by simpa [hc']⟩
      (fun _ => by simp [Lock.Opens, hc']) (fun n _ => Or.inl (hsettled n)) h.answers h.started

lemma Consistent.lock_store (h : s.Consistent) {c : Change} (hl : s.lock = .store c) :
    s.proceed.Consistent := by
  have hlock := h.lock
  rw [hl] at hlock
  obtain ⟨-, hj, he⟩ := hlock
  have hsettled (n : Nat) : s.lock.Settled n := hl ▸ trivial
  simp only [State.proceed, hl]
  split_ifs with hc
  · have hnote := note_event_of_ne hj
    refine h.of_lock rfl rfl (by simp only [State.answered, hnote]) rfl ?_ (fun _ => rfl)
      (fun n _ => Or.inl (hsettled n)) (h.truthful hj)
      (by simp only [State.answered, hnote, startedAfter])
    simp only [State.answered, hnote]
    refine ⟨isSome_millis c, ?_⟩
    rw [hj, hc] at he
    simp only [hc, Bool.not_true, Bool.toNat_false, Bool.toNat_true] at he ⊢
    omega
  · have hc' : c.starts = false := by simpa using hc
    refine h.of_lock rfl rfl rfl rfl ⟨(isSome_millis c).trans hc', hj, ?_⟩ (fun _ => rfl)
      (fun n _ => Or.inl (hsettled n)) h.answers h.started
    simpa [hc'] using he

lemma Consistent.lock_load (h : s.Consistent) {c : Change} (hl : s.lock = .load c) :
    s.proceed.Consistent := by
  have hlock := h.lock
  rw [hl] at hlock
  simp only [State.proceed, hl]
  exact h.of_lock rfl rfl rfl rfl ⟨rfl, hlock⟩ (fun _ => rfl) (fun n _ => Or.inl (hl ▸ trivial))
    h.answers h.started

/-- No call is registered in a new epoch. -/
lemma Consistent.countsIn_next (h : s.Consistent) {v : Visit} (hv : v ∈ s.journal.visits) :
    countsIn (s.memory.epoch + 1) v = false := by
  rcases ha : v.activation with _ | a
  · simp [countsIn, Visit.registered, ha]
  have hle := h.activation_le v hv a ha
  have hne : activation (s.memory.epoch + 1) ≠ some a := by
    rw [Ne, activation_eq_some]
    omega
  simp [countsIn, ha, Ne.symm hne]

lemma Consistent.lock_swap (h : s.Consistent) {c : Change} {e : Nat} (hl : s.lock = .swap c e) :
    s.proceed.Consistent := by
  have hlock := h.lock
  rw [hl] at hlock
  obtain ⟨rfl, hoff, hj, he⟩ := hlock
  simp only [State.proceed, hl]
  have hzero (q : Visit → Bool) :
      (s.journal.visits.countP fun v => countsIn (s.memory.epoch + 1) v && q v) = 0 :=
    List.countP_eq_zero.mpr fun v hv => by simp [h.countsIn_next hv]
  refine ⟨⟨hoff, hj, by simp only [Memory.swapped]; omega⟩,
    h.numbered.of_sublist (.refl _) rfl rfl, h.sound, fun n => ?_, fun v hv a ha => ?_, ?_, ?_,
    h.answers, h.started⟩
  · refine ((h.fits n).swap (fun e' he' => ?_)).mono (fun _ => id) (by simp [Lock.Settled])
    exact Or.inl (Nat.lt_succ_of_le he'.le)
  · exact Nat.le_succ_of_le (h.activation_le v hv a ha)
  · simpa [Memory.monitor, Memory.swapped] using (hzero fun _ => true).symm
  · simpa [Memory.monitor, Memory.swapped] using (hzero _).symm

/-- When every entry that is there has had its turn, the others have no frames. -/
lemma settled_of_visited {c : Change} {visited : List Nat} (hl : s.lock = .sweep c visited)
    (hdone : ∀ i ∈ s.memory.registry, i.thread.number ∈ visited) (n : Nat) :
    s.lock.Settled n ∨ s.lock.Opens = false ∧ stack n s.memory.registry = [] := by
  rw [hl]
  by_cases hn : n ∈ visited
  · exact Or.inl hn
  · refine Or.inr ⟨rfl, stack_eq_nil fun hm => hn ?_⟩
    obtain ⟨i, hi, rfl⟩ := List.mem_map.mp hm
    exact hdone i hi

lemma Consistent.lock_sweep (h : s.Consistent) {c : Change} {visited : List Nat}
    (hl : s.lock = .sweep c visited) : s.proceed.Consistent := by
  have hlock := h.lock
  rw [hl] at hlock
  obtain ⟨hoff, hj, he⟩ := hlock
  have hclosed : s.lock.Opens = false := by rw [hl]; rfl
  simp only [State.proceed, hl]
  split_ifs with hdone hc
  · refine h.of_lock rfl rfl rfl rfl ⟨?_, hj, ?_⟩ (by simp [hclosed])
      (fun n _ => settled_of_visited hl hdone n) h.answers h.started
    · rw [hc]
      exact hoff
    · rw [hc]
      exact he
  · have hc' : c.starts = false := by simpa using hc
    have hnote := note_event_of_ne hj
    refine h.of_lock rfl rfl (by simp only [State.answered, hnote]) rfl ?_ (fun _ => rfl)
      (fun n _ => settled_of_visited hl hdone n) (h.truthful hj)
      (by simp only [State.answered, hnote, startedAfter])
    simp only [State.answered, hnote]
    refine ⟨hoff.trans hc'.symm, ?_⟩
    rw [hj, hc'] at he
    simp only [hc', Bool.not_false, Bool.toNat_true, Bool.toNat_false] at he ⊢
    omega
  · exact h

lemma Consistent.proceed (h : s.Consistent) : s.proceed.Consistent := by
  rcases hl : s.lock with _ | c | c | c | ⟨c, e⟩ | ⟨c, visited⟩
  · simp only [State.proceed, hl]
    exact h
  · exact h.lock_check hl
  · exact h.lock_store hl
  · exact h.lock_load hl
  · exact h.lock_swap hl
  · exact h.lock_sweep hl

lemma Consistent.clear (h : s.Consistent) (n : Nat) : (s.clear n).Consistent := by
  unfold State.clear
  split
  · rename_i c visited hl
    split_ifs with hn
    · exact h
    have hlock := h.lock
    rw [hl] at hlock
    have hlive (e : Nat) : s.Live e ↔ e < s.memory.epoch := by
      simp [Live, hl, Lock.Opens]
    refine ⟨hlock, h.numbered.of_sublist (frames_filter_sublist _) rfl rfl, h.sound.without n,
      fun i => ?_, h.activation_le, h.invocations, h.errors, h.answers, h.started⟩
    by_cases hi : i = n
    · subst hi
      rw [FitsAt]
      simp only [stack_without_same]
      exact ((h.fits i).clear fun e he => (hlive e).mp he).mono
        (fun e he => Or.inl ((hlive e).mp he)) id
    · rw [FitsAt]
      simp only [stack_without_of_ne hi]
      refine (h.fits i).mono (fun e he => Or.inl ((hlive e).mp he)) fun hs => ?_
      rw [hl]
      exact (List.mem_cons.mp hs).resolve_left hi
  · exact h

/-! ### Runs -/

lemma Consistent.step (h : s.Consistent) (a : Action) : (s.step a).Consistent := by
  cases a with
  | arrive a => exact h.arrive a
  | leave n failed => exact h.leave n failed
  | advance n => exact h.advance n
  | seize c => exact h.seize c
  | proceed => exact h.proceed
  | clear n => exact h.clear n

theorem consistent_run (as : List Action) : (run init as).Consistent := by
  induction as using List.reverseRecOn with
  | nil => exact consistent_init
  | append_singleton as a ih =>
    rw [run_append, run_cons, run_nil]
    exact ih.step a

end State

end Race

end CallWatch
