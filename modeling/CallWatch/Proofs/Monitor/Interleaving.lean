import CallWatch.Demo
import CallWatch.Proofs.Monitor.Exactness
import Mathlib.Data.List.Perm.Basic

/-!
How the calls of different threads interleave does not matter.

What the journal says of one thread is what it would say if only the events of that thread had
happened, as long as no start or stop comes in between. The frames of a thread show what the
journal says of it, and the counters are sums over the threads; so both are settled by the
events of each thread in their order. The readings of the clock may differ between two runs, and
then the times that the frames show differ in the same way.
-/

namespace CallWatch

open Registry

/-! ### Scripts -/

namespace Event

/-- The thread whose calls an event is about. -/
def thread? : Event → Option Nat
  | enter t _ _ _ _ => some t.number
  | leave n _ => some n
  | _ => none

/-- Starts and stops. -/
def changes : Event → Bool
  | start _ | stop => true
  | _ => false

/-- The same event of a call, at readings of the clock that are in the relation. -/
inductive Alike (clock : Instant → Instant → Prop) : Event → Event → Prop
  | enter (t : Thread) (service : ServiceDescriptor) (pipeline : Pipeline)
      (state : Except Envelope InvokeState) {now now' : Instant} (h : clock now now') :
      Alike clock (.enter t service pipeline state now) (.enter t service pipeline state now')
  | leave (n : Nat) (failed : Bool) : Alike clock (.leave n failed) (.leave n failed)

/-- The events of a thread in their order. -/
def own (n : Nat) (es : List Event) : List Event := es.filter fun e => e.thread? == some n

variable {clock : Instant → Instant → Prop} {n : Nat} {e : Event} {es : List Event}

lemma changes_of_thread? (h : e.thread? = some n) : e.changes = false := by
  cases e <;> simp_all [thread?, changes]

lemma own_cons_pos (h : e.thread? = some n) : own n (e :: es) = e :: own n es :=
  List.filter_cons_of_pos (by simpa using h)

lemma own_cons_neg (h : e.thread? ≠ some n) : own n (e :: es) = own n es :=
  List.filter_cons_of_neg (by simpa using h)

lemma alike_own (hclock : ∀ t, clock t t) (n : Nat) (es : List Event) :
    List.Forall₂ (Alike clock) (own n es) (own n es) := by
  refine List.forall₂_same.mpr fun e he => ?_
  have hn := (List.mem_filter.mp he).2
  cases e with
  | enter t service pipeline state now => exact .enter t service pipeline state (hclock now)
  | leave m failed => exact .leave m failed
  | start now | stop | report now => simp [thread?] at hn

/-- Two events of different threads can change places. -/
lemma own_swap {e e' : Event} (h : e.thread? ≠ e'.thread?) (n : Nat) :
    own n [e, e'] = own n [e', e] := by
  by_cases he : e.thread? = some n
  · have he' : e'.thread? ≠ some n := fun hc => h (he.trans hc.symm)
    rw [own_cons_pos he, own_cons_neg he', own_cons_neg he', own_cons_pos he]
  · rw [own_cons_neg he]
    by_cases he' : e'.thread? = some n
    · rw [own_cons_pos he', own_cons_pos he', own_cons_neg he]
    · rw [own_cons_neg he', own_cons_neg he', own_cons_neg he]

end Event

/-! ### The calls of one thread -/

namespace Visit

/-- The same call, at readings of the clock that are in the relation. -/
structure Alike (clock : Instant → Instant → Prop) (v v' : Visit) : Prop where
  thread : v.thread = v'.thread
  service : v.service = v'.service
  pipeline : v.pipeline = v'.pipeline
  state : v.state = v'.state
  now : clock v.now v'.now
  activation : v.activation = v'.activation
  ended : v.ended = v'.ended

/-- All calls of a thread. -/
def own (n : Nat) (vs : List Visit) : List Visit := vs.filter fun v => v.thread == n

variable {clock : Instant → Instant → Prop} {n m : Nat} {failed : Bool} {v : Visit}
  {vs vs' : List Visit}

lemma own_cons_pos (h : v.thread = n) : own n (v :: vs) = v :: own n vs :=
  List.filter_cons_of_pos (by simpa using h)

lemma own_cons_neg (h : v.thread ≠ n) : own n (v :: vs) = own n vs :=
  List.filter_cons_of_neg (by simpa using h)

lemma own_finish_same : own n (finish n failed vs) = finish n failed (own n vs) := by
  induction vs with
  | nil => rfl
  | cons v vs ih =>
    by_cases hv : v.thread = n
    · by_cases he : v.ended = none
      · rw [own_cons_pos hv, finish, finish, if_pos ⟨hv, he⟩, if_pos ⟨hv, he⟩]
        exact own_cons_pos hv
      · rw [own_cons_pos hv, finish, finish, if_neg (he ·.2), if_neg (he ·.2), own_cons_pos hv, ih]
    · rw [own_cons_neg hv, finish, if_neg (hv ·.1), own_cons_neg hv, ih]

lemma own_finish_of_ne (h : m ≠ n) : own n (finish m failed vs) = own n vs := by
  induction vs with
  | nil => rfl
  | cons v vs ih =>
    by_cases hv : v.thread = m ∧ v.ended = none
    · have hn : v.thread ≠ n := fun he => h (hv.1.symm.trans he)
      rw [finish, if_pos hv, own_cons_neg hn]
      exact own_cons_neg hn
    · rw [finish, if_neg hv]
      by_cases hn : v.thread = n
      · rw [own_cons_pos hn, own_cons_pos hn, ih]
      · rw [own_cons_neg hn, own_cons_neg hn, ih]

lemma unfinished_own : unfinished n (own n vs) = unfinished n vs := by
  rw [unfinished, unfinished, own, List.filter_filter]
  congr 1
  funext v
  cases v.thread == n <;> simp

lemma Alike.finish (h : List.Forall₂ (Alike clock) vs vs') (n : Nat) (failed : Bool) :
    List.Forall₂ (Alike clock) (finish n failed vs) (finish n failed vs') := by
  induction h with
  | nil => exact .nil
  | cons hv h ih =>
    rw [Visit.finish, Visit.finish, hv.thread, hv.ended]
    split_ifs
    · exact .cons ⟨rfl, hv.service, hv.pipeline, hv.state, hv.now, hv.activation, rfl⟩ h
    · exact .cons hv ih

/-- A count is settled by the counts of the threads. -/
lemma countP_of_own {p : Visit → Bool} (h : ∀ n, (own n vs).countP p = (own n vs').countP p) :
    vs.countP p = vs'.countP p := by
  have hthreads : ((vs.filter p).map Visit.thread).Perm ((vs'.filter p).map Visit.thread) := by
    refine List.perm_iff_count.mpr fun n => ?_
    have hcount (us : List Visit) :
        ((us.filter p).map Visit.thread).count n = (own n us).countP p := by
      rw [List.count_eq_countP, List.countP_map, List.countP_filter, own, List.countP_filter]
      congr 1
      funext v
      exact Bool.and_comm _ _
    rw [hcount, hcount, h]
  rw [List.countP_eq_length_filter, List.countP_eq_length_filter]
  simpa using hthreads.length_eq

end Visit

namespace Journal

variable {clock : Instant → Instant → Prop} {n : Nat} {j j' : Journal} {e e' : Event}
  {es fs : List Event}

/-- The journal without the calls of other threads. -/
def narrowed (j : Journal) (n : Nat) : Journal := { j with visits := Visit.own n j.visits }

lemma narrowed_note (he : e.changes = false) : (j.note e).narrowed n =
    if e.thread? = some n then (j.narrowed n).note e else j.narrowed n := by
  cases e with
  | enter t service pipeline state now =>
    simp only [Event.thread?, Option.some.injEq]
    split_ifs with ht
    · simp only [narrowed, note]
      rw [Visit.own_cons_pos ht]
      rfl
    · simp only [narrowed, note]
      rw [Visit.own_cons_neg ht]
  | leave m failed =>
    simp only [Event.thread?, Option.some.injEq]
    split_ifs with hm
    · subst hm
      simp only [narrowed, note, Visit.own_finish_same]
    · simp only [narrowed, note, Visit.own_finish_of_ne hm]
  | start now | stop => simp [Event.changes] at he
  | report now => rfl

/-- What the journal says of a thread comes from the events of that thread. -/
lemma narrowed_foldl (hes : ∀ e ∈ es, e.changes = false) :
    (es.foldl note j).narrowed n = (Event.own n es).foldl note (j.narrowed n) := by
  induction es generalizing j with
  | nil => rfl
  | cons e es ih =>
    obtain ⟨he, hes⟩ := List.forall_mem_cons.mp hes
    rw [List.foldl_cons, ih hes, narrowed_note he]
    split_ifs with hn
    · rw [Event.own_cons_pos hn, List.foldl_cons]
    · rw [Event.own_cons_neg hn]

/-- Two journals with the same calls, at readings of the clock that are in the relation. -/
structure Alike (clock : Instant → Instant → Prop) (j j' : Journal) : Prop where
  starts : j.starts = j'.starts
  started : j.started = j'.started
  visits : List.Forall₂ (Visit.Alike clock) j.visits j'.visits

lemma alike_refl (hclock : ∀ t, clock t t) (j : Journal) : j.Alike clock j :=
  ⟨rfl, rfl, List.forall₂_same.mpr fun v _ => ⟨rfl, rfl, rfl, rfl, hclock v.now, rfl, rfl⟩⟩

lemma Alike.activation (h : j.Alike clock j') : j.activation = j'.activation := by
  rw [Journal.activation, Journal.activation, h.started, h.starts]

lemma Alike.note (h : j.Alike clock j') (he : e.Alike clock e') :
    (j.note e).Alike clock (j'.note e') := by
  cases he with
  | enter t service pipeline state hnow =>
    refine ⟨h.starts, h.started, .cons ?_ h.visits⟩
    exact ⟨rfl, rfl, rfl, rfl, hnow, h.activation, rfl⟩
  | leave n failed => exact ⟨h.starts, h.started, Visit.Alike.finish h.visits n failed⟩

lemma Alike.foldl (h : j.Alike clock j') (hes : List.Forall₂ (Event.Alike clock) es fs) :
    (es.foldl Journal.note j).Alike clock (fs.foldl Journal.note j') := by
  refine List.rel_foldl (P := Alike clock) ?_ h hes
  exact fun _ _ hj _ _ he => hj.note he

lemma Alike.counts (h : j.Alike clock j') {v v' : Visit} (hv : v.Alike clock v') :
    j.counts v = j'.counts v' := by
  rw [Journal.counts, Journal.counts, Visit.registered, Visit.registered, hv.activation, hv.state,
    h.activation]

lemma Alike.live (h : j.Alike clock j') (n : Nat) :
    List.Forall₂ (Visit.Alike clock) (j.live n) (j'.live n) := by
  have hopen : List.Forall₂ (Visit.Alike clock) (Visit.unfinished n j.visits)
      (Visit.unfinished n j'.visits) := by
    refine List.rel_filter (fun v v' hv => Bool.eq_iff_iff.mp ?_) h.visits
    rw [hv.thread, hv.ended]
  exact List.rel_filter (fun _ _ hv => Bool.eq_iff_iff.mp (h.counts hv)) hopen

lemma live_narrowed : (j.narrowed n).live n = j.live n := by
  rw [live, live, narrowed, Visit.unfinished_own]
  rfl

end Journal

/-! ### Monitors -/

/-- Two frames of the same call, at readings of the clock that are in the relation. -/
structure Frame.Alike (clock : Instant → Instant → Prop) (f f' : Frame) : Prop where
  service : f.service = f'.service
  pipeline : f.pipeline = f'.pipeline
  state : f.state = f'.state
  startedAt : clock f.startedAt f'.startedAt

/-- Two monitors with the same threads, the same calls on each, and the same counters. -/
structure Monitor.Agrees (clock : Instant → Instant → Prop) (m m' : Monitor) : Prop where
  epoch : m.epoch = m'.epoch
  startMillis : m.startMillis = m'.startMillis
  numbers : m.registry.numbers.Perm m'.registry.numbers
  calls : ∀ n, List.Forall₂ (Frame.Alike clock) (stack n m.registry) (stack n m'.registry)
  invocations : m.invocations = m'.invocations
  errors : m.errors = m'.errors

section

variable {clock : Instant → Instant → Prop} {fs fs' : List Frame} {vs vs' : List Visit}

/-- Frames that show the same calls. -/
lemma Frame.alike_of_shows (h : List.Forall₂ Shows fs vs)
    (hv : List.Forall₂ (Visit.Alike clock) vs vs') (h' : List.Forall₂ Shows fs' vs') :
    List.Forall₂ (Alike clock) fs fs' := by
  induction h generalizing vs' fs' with
  | nil =>
    cases hv
    cases h'
    exact .nil
  | cons hf _ ih =>
    obtain _ | ⟨hvv, hv⟩ := hv
    obtain _ | ⟨hf', h'⟩ := h'
    refine .cons ⟨?_, ?_, ?_, ?_⟩ (ih hv h')
    · exact (hf.service.trans hvv.service).trans hf'.service.symm
    · exact (hf.pipeline.trans hvv.pipeline).trans hf'.pipeline.symm
    · exact Except.ok.inj ((hf.state.trans hvv.state).trans hf'.state.symm)
    · rw [hf.startedAt, hf'.startedAt]
      exact hvv.now

variable {w w' : Watch} {j j' : Journal}

/-- The frames of a thread show what the journal says of it. -/
lemma Coupled.alike_stack (h : Coupled w j) (h' : Coupled w' j') {n : Nat}
    (hj : (j.narrowed n).Alike clock (j'.narrowed n)) :
    List.Forall₂ (Frame.Alike clock) (stack n w.monitor.registry)
      (stack n w'.monitor.registry) := by
  have hlive := hj.live n
  rw [Journal.live_narrowed, Journal.live_narrowed] at hlive
  exact Frame.alike_of_shows (h.shows (h.matched n)) hlive (h'.shows (h'.matched n))

lemma Coupled.tracks_eq (h : Coupled w j) (h' : Coupled w' j') {n : Nat}
    (hs : List.Forall₂ (Frame.Alike clock) (stack n w.monitor.registry)
      (stack n w'.monitor.registry)) :
    w.monitor.registry.tracks n = w'.monitor.registry.tracks n := by
  rw [Bool.eq_iff_iff, h.sound.tracks_iff_stack, h'.sound.tracks_iff_stack, ← List.length_pos_iff,
    ← List.length_pos_iff, hs.length_eq]

/-- A count over all calls is settled by what the journal says of each thread. -/
lemma Journal.countP_eq (hj : ∀ n, (j.narrowed n).Alike clock (j'.narrowed n)) {p : Visit → Bool}
    (hp : ∀ v v', v.Alike clock v' → p v = p v') : j.visits.countP p = j'.visits.countP p := by
  refine Visit.countP_of_own fun n => ?_
  rw [List.countP_eq_length_filter, List.countP_eq_length_filter]
  exact (List.rel_filter (fun v v' hv => Bool.eq_iff_iff.mp (hp v v' hv)) (hj n).visits).length_eq

lemma Coupled.counters_eq (h : Coupled w j) (h' : Coupled w' j')
    (hj : ∀ n, (j.narrowed n).Alike clock (j'.narrowed n)) :
    w.monitor.invocations = w'.monitor.invocations ∧ w.monitor.errors = w'.monitor.errors := by
  have hcounts : j'.counts = j.counts := by
    have hactivation : j.activation = j'.activation := (hj 0).activation
    funext v
    rw [Journal.counts, Journal.counts, hactivation]
  have halike : ∀ v v', Visit.Alike clock v v' → j.counts v = j.counts v' := fun v v' hv =>
    ((hj 0).counts hv).trans (congrFun hcounts v')
  rw [h.invocations, h'.invocations, h.errors, h'.errors, hcounts]
  refine ⟨Journal.countP_eq hj halike, Journal.countP_eq hj fun v v' hv => ?_⟩
  rw [halike v v' hv, hv.ended]

end

namespace Watch

variable {w : Watch} {e : Event} {es : List Event}

lemma unchanged_step (he : e.changes = false) : (w.step e).monitor.epoch = w.monitor.epoch ∧
    (w.step e).monitor.startMillis = w.monitor.startMillis := by
  rcases w.monitor_step e with hm | ⟨t, service, pipeline, state, st, now, rfl, hm⟩ |
      ⟨m, failed, n, s, rfl, hm⟩ | ⟨now, rfl, -⟩ | ⟨rfl, -⟩ | ⟨now, rfl, hm⟩
  · rw [hm]
    exact ⟨rfl, rfl⟩
  · rw [hm]
    exact ⟨rfl, rfl⟩
  · rw [hm]
    exact ⟨rfl, rfl⟩
  · exact nomatch he
  · exact nomatch he
  · rw [hm]
    exact ⟨rfl, rfl⟩

lemma unchanged_run (hes : ∀ e ∈ es, e.changes = false) :
    (run w es).monitor.epoch = w.monitor.epoch ∧
      (run w es).monitor.startMillis = w.monitor.startMillis := by
  induction es generalizing w with
  | nil => exact ⟨rfl, rfl⟩
  | cons e es ih =>
    obtain ⟨he, hes⟩ := List.forall_mem_cons.mp hes
    obtain ⟨hepoch, hmillis⟩ := unchanged_step (w := w) he
    obtain ⟨hepoch', hmillis'⟩ := ih (w := w.step e) hes
    exact ⟨hepoch'.trans hepoch, hmillis'.trans hmillis⟩

/-- After a common past, a thread goes by its own events. -/
lemma narrowed_alike {clock : Instant → Instant → Prop} (hclock : ∀ t, clock t t)
    (past : List Event) {es fs : List Event} (hes : ∀ e ∈ es, e.changes = false)
    (hfs : ∀ e ∈ fs, e.changes = false) {n : Nat}
    (h : List.Forall₂ (Event.Alike clock) (Event.own n es) (Event.own n fs)) :
    ((Journal.ofEvents (past ++ es)).narrowed n).Alike clock
      ((Journal.ofEvents (past ++ fs)).narrowed n) := by
  rw [Journal.ofEvents, Journal.ofEvents, List.foldl_append, List.foldl_append,
    Journal.narrowed_foldl hes, Journal.narrowed_foldl hfs]
  exact (Journal.alike_refl hclock _).foldl h

/-- Two runs in which every thread has the same events. -/
lemma agrees_of_own {clock : Instant → Instant → Prop} (hclock : ∀ t, clock t t) (r : Renderer)
    (past : List Event) {es fs : List Event} (hes : ∀ e ∈ es, e.changes = false)
    (hfs : ∀ e ∈ fs, e.changes = false)
    (h : ∀ n, List.Forall₂ (Event.Alike clock) (Event.own n es) (Event.own n fs)) :
    (run (run (init r) past) es).monitor.Agrees clock (run (run (init r) past) fs).monitor := by
  have hce := coupled_run r (past ++ es)
  have hcf := coupled_run r (past ++ fs)
  rw [run_append] at hce hcf
  have hj (n : Nat) := narrowed_alike hclock past hes hfs (h n)
  have hstacks (n : Nat) := hce.alike_stack hcf (hj n)
  obtain ⟨hepoch, hmillis⟩ := unchanged_run (w := run (init r) past) hes
  obtain ⟨hepoch', hmillis'⟩ := unchanged_run (w := run (init r) past) hfs
  obtain ⟨hinvocations, herrors⟩ := hce.counters_eq hcf hj
  refine ⟨hepoch.trans hepoch'.symm, hmillis.trans hmillis'.symm, ?_, hstacks, hinvocations,
    herrors⟩
  refine (List.perm_ext_iff_of_nodup hce.sound.numbers_nodup hcf.sound.numbers_nodup).mpr ?_
  intro n
  rw [← tracks_iff, ← tracks_iff, hce.tracks_eq hcf (hstacks n)]

end Watch

/-- **Interleavings agree.** After every run, let events follow in two ways, with no start and no
stop among them. A thread that has had the same events both times, up to the readings of the
clock, has the same calls on its stack and is tracked or not in both; and if all threads have
had the same events, the monitors agree, however these were interleaved. In particular two
events of different threads that follow each other can change places. -/
theorem interleavings_agree (r : Renderer) (clock : Instant → Instant → Prop)
    (hclock : ∀ t, clock t t) (past es fs : List Event) (hes : ∀ e ∈ es, e.changes = false)
    (hfs : ∀ e ∈ fs, e.changes = false) :
    let w := Watch.run (.init r) past
    let m := (w.run es).monitor
    let m' := (w.run fs).monitor
    (∀ n, List.Forall₂ (Event.Alike clock) (Event.own n es) (Event.own n fs) →
      List.Forall₂ (Frame.Alike clock) (stack n m.registry) (stack n m'.registry) ∧
        m.registry.tracks n = m'.registry.tracks n) ∧
      ((∀ n, List.Forall₂ (Event.Alike clock) (Event.own n es) (Event.own n fs)) →
        m.Agrees clock m') ∧
      ∀ e e' a b, e.thread? = some a → e'.thread? = some b → a ≠ b →
        (w.run [e, e']).monitor.Agrees Eq (w.run [e', e]).monitor := by
  intro w m m'
  refine ⟨fun n h => ?_, Watch.agrees_of_own hclock r past hes hfs, fun e e' a b he he' hab => ?_⟩
  · have hce := coupled_run r (past ++ es)
    have hcf := coupled_run r (past ++ fs)
    rw [Watch.run_append] at hce hcf
    have hstack := hce.alike_stack hcf (Watch.narrowed_alike hclock past hes hfs h)
    exact ⟨hstack, hce.tracks_eq hcf hstack⟩
  · have hne : e.thread? ≠ e'.thread? := by simp [he, he', hab]
    have hce := Event.changes_of_thread? he
    have hce' := Event.changes_of_thread? he'
    refine Watch.agrees_of_own (fun _ => rfl) r past (by simp [hce, hce']) (by simp [hce, hce'])
      fun n => ?_
    rw [Event.own_swap hne]
    exact Event.alike_own (fun _ => rfl) n _

/-- Two threads in either order, the second time with a clock that has gone on. -/
theorem interleavings_agree_two_threads :
    let a := Event.enter (Demo.thread 0) (Demo.service 1) .empty (.ok (Demo.state 0))
    let b := Event.enter (Demo.thread 1) (Demo.service 2) .empty (.ok (Demo.state 1))
    let later : Instant := ⟨60, 0, by decide⟩
    let es := [a .epoch, b .epoch, .leave 1 true]
    let fs := [b later, a later, .leave 1 true]
    let w := Watch.run (.init .refusing) [.start .epoch]
    (w.run es).monitor.Agrees (fun _ _ => True) (w.run fs).monitor ∧
      (w.run fs).monitor.registry.numbers = [2] ∧ (w.run fs).monitor.errors = 1 := by
  intro a b later es fs w
  have hown : ∀ n, List.Forall₂ (Event.Alike fun _ _ => True) (Event.own n es)
      (Event.own n fs) := by
    intro n
    rcases n with _ | _ | _ | n
    · exact .nil
    · exact .cons (.enter _ _ _ _ trivial) (.cons (.leave 1 true) .nil)
    · exact .cons (.enter _ _ _ _ trivial) .nil
    · exact .nil
  have h := interleavings_agree .refusing (fun _ _ => True) (fun _ => trivial) [.start .epoch] es fs
    (by simp [es, a, b, Event.changes]) (by simp [fs, a, b, Event.changes])
  exact ⟨h.2.1 hown, rfl, rfl⟩

end CallWatch
