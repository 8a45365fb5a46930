import CallWatch.Proofs.Chain.Transparency

/-!
The way of a call through a list of processors and back.

A run is recorded by processors and a handler that do what the given ones do and write down when
the call comes and goes. The record of every run has one shape, `Passage.Onion`: the call goes
down the list as far as it is let, and comes back the same way in reverse, each processor getting
what the next one returned. A panic that nobody catches comes back as it was raised, and the call
with it.
-/

namespace CallWatch

variable {ω ε : Type}

/-- A processor that does not catch panics: it changes nothing on the way back. -/
def Processor.PassesPanics (p : Processor ω ε) : Prop :=
  ∀ service n c leave d, p service n c = (.proceed leave, d) →
    ∀ payload e, leave (.panic payload) e = (.panic payload, e)

namespace Passage

/-- What one processor had to do with a run. -/
structure Turn (ω ε : Type) where
  remaining : Nat
  /-- The call as it came. -/
  arrival : Call ω
  /-- The call as it was let go on; none if the processor ended it. -/
  sent : Option (Call ω)
  /-- What came back for it. -/
  received : Option (Outcome ε × Call ω)
  returned : Outcome ε × Call ω

inductive Event (ω ε : Type) where
  | entered (place remaining : Nat) (c : Call ω)
  | proceeded (place : Nat) (c : Call ω)
  | handled (r : Outcome ε × Call ω)
  | left (place : Nat) (received : Option (Outcome ε × Call ω)) (returned : Outcome ε × Call ω)

/-! ### Recording a run -/

/-- A world with the events so far. -/
abbrev Recorded (ω ε : Type) := ω × List (Event ω ε)

def bare (c : Call (Recorded ω ε)) : Call ω := c.outside Prod.fst

def logged (c : Call ω) (log : List (Event ω ε)) : Call (Recorded ω ε) :=
  ⟨c.pipeline, c.status, (c.world, log)⟩

lemma bare_logged (c : Call ω) (log : List (Event ω ε)) : bare (logged c log) = c := rfl

lemma snd_world_logged (c : Call ω) (log : List (Event ω ε)) : (logged c log).world.2 = log := rfl

/-- The processor at a place, which does what `p` does. -/
def processor (p : Processor ω ε) (place : Nat) : Processor (Recorded ω ε) ε :=
  fun service n c =>
    let log := c.world.2 ++ [.entered place n (bare c)]
    match p service n (bare c) with
    | (.stop o, d) => (.stop o, logged d (log ++ [.left place none (o, d)]))
    | (.proceed leave, d) =>
      (.proceed fun o e =>
          let r := leave o (bare e)
          (r.1, logged r.2 (e.world.2 ++ [.left place (some (o, bare e)) r])),
        logged d (log ++ [.proceeded place d]))

def handler (h : Handler ω ε) : Handler (Recorded ω ε) ε := fun service c =>
  let r := h service (bare c)
  (r.1, logged r.2 (c.world.2 ++ [.handled r]))

/-- The recorded run through processors at the places from `place` on. -/
def runFrom (service : ServiceDescriptor) (h : Handler ω ε) (ps : List (Processor ω ε))
    (place : Nat) : Call (Recorded ω ε) → Outcome ε × Call (Recorded ω ε) :=
  Processor.run service (handler h) ((ps.zipIdx place).map fun x => processor x.1 x.2)

/-! ### The shape of a record -/

def waysIn (place : Nat) (turns : List (Turn ω ε)) : List (Event ω ε) :=
  (turns.zipIdx place).flatMap fun x =>
    .entered x.2 x.1.remaining x.1.arrival :: (x.1.sent.map (.proceeded x.2)).toList

def waysOut (place : Nat) (turns : List (Turn ω ε)) : List (Event ω ε) :=
  (turns.zipIdx place).map fun x => .left x.2 x.1.received x.1.returned

/-- Down the list, into the handler if it was reached, and back in reverse. -/
def log (place : Nat) (turns : List (Turn ω ε)) (handled : Option (Outcome ε × Call ω)) :
    List (Event ω ε) :=
  waysIn place turns ++ handled.toList.map .handled ++ (waysOut place turns).reverse

/-- What the processors returned, the first one first, and what the handler did. -/
def results (turns : List (Turn ω ε)) (handled : Option (Outcome ε × Call ω)) :
    List (Outcome ε × Call ω) :=
  turns.map Turn.returned ++ handled.toList

/-- What came to the first processor, and what each of them sent on. -/
def arrivals (c : Call ω) (turns : List (Turn ω ε)) : List (Option (Call ω)) :=
  some c :: turns.map Turn.sent

def Proceeded (turns : List (Turn ω ε)) (i : Nat) : Prop :=
  ∃ t, turns[i]? = some t ∧ t.sent.isSome

/-- The turn is that of `p`. -/
def Turn.Of (service : ServiceDescriptor) (p : Processor ω ε) (t : Turn ω ε) : Prop :=
  match p service t.remaining t.arrival with
  | (.stop o, d) => t.sent = none ∧ t.received = none ∧ t.returned = (o, d)
  | (.proceed leave, d) =>
    t.sent = some d ∧ ∃ r, t.received = some r ∧ t.returned = leave r.1 r.2

/-- The shape of all runs. -/
structure Onion (service : ServiceDescriptor) (h : Handler ω ε) (ps : List (Processor ω ε))
    (c : Call ω) (turns : List (Turn ω ε)) (handled : Option (Outcome ε × Call ω)) : Prop where
  length_le : turns.length ≤ ps.length
  turn : ∀ (i : Nat) (t : Turn ω ε) (p : Processor ω ε),
    turns[i]? = some t → ps[i]? = some p → t.Of service p
  /-- A processor is entered if all before it have proceeded. -/
  entered : ∀ i < ps.length, (i < turns.length ↔ ∀ j < i, Proceeded turns j)
  /-- The handler runs if all processors have proceeded, on the call as it has become. -/
  reached : handled.isSome ↔ ∀ j < ps.length, Proceeded turns j
  handler : handled = ((arrivals c turns)[ps.length]?).join.map (h service)
  remaining : ∀ (i : Nat) (t : Turn ω ε), turns[i]? = some t → t.remaining = ps.length - 1 - i
  arrival : ∀ (i : Nat) (t : Turn ω ε), turns[i]? = some t →
    (arrivals c turns)[i]? = some (some t.arrival)
  /-- Each gets what the next one returned, or the handler after the last. -/
  received : ∀ (i : Nat) (t : Turn ω ε), turns[i]? = some t →
    t.received = (results turns handled)[i + 1]?

lemma proceeded_zero {t : Turn ω ε} {ts : List (Turn ω ε)} :
    Proceeded (t :: ts) 0 ↔ t.sent.isSome := by
  simp [Proceeded]

lemma proceeded_succ {t : Turn ω ε} {ts : List (Turn ω ε)} {i : Nat} :
    Proceeded (t :: ts) (i + 1) ↔ Proceeded ts i := Iff.rfl

variable {service : ServiceDescriptor} {h : Handler ω ε} {ps : List (Processor ω ε)} {c d : Call ω}
  {p : Processor ω ε} {o : Outcome ε} {turns : List (Turn ω ε)}
  {handled : Option (Outcome ε × Call ω)} {leave : Outcome ε → Call ω → Outcome ε × Call ω}

namespace Onion

lemma nil : Onion service h [] c [] (some (h service c)) where
  length_le := Nat.le_refl _
  turn := by simp
  entered := by simp
  reached := by simp
  handler := rfl
  remaining := by simp
  arrival := by simp
  received := by simp

lemma stop (hp : p service ps.length c = (.stop o, d)) :
    Onion service h (p :: ps) c [⟨ps.length, c, none, none, (o, d)⟩] none := by
  have hnot : ¬Proceeded [(⟨ps.length, c, none, none, (o, d)⟩ : Turn ω ε)] 0 := by
    simp [proceeded_zero]
  have honly (i : Nat) (t : Turn ω ε)
      (ht : [(⟨ps.length, c, none, none, (o, d)⟩ : Turn ω ε)][i]? = some t) :
      i = 0 ∧ t = ⟨ps.length, c, none, none, (o, d)⟩ := by
    cases i with
    | zero => exact ⟨rfl, (Option.some.inj ht).symm⟩
    | succ i => simp at ht
  refine ⟨by simp, ?_, ?_, ?_, ?_, ?_, ?_, ?_⟩
  · intro i t q ht hq
    obtain ⟨rfl, rfl⟩ := honly i t ht
    obtain rfl : p = q := Option.some.inj hq
    simp [Turn.Of, hp]
  · intro i _
    cases i with
    | zero => simp
    | succ i => exact iff_of_false (by simp) fun hall => hnot (hall 0 (Nat.succ_pos i))
  · exact iff_of_false nofun fun hall => hnot (hall 0 (Nat.succ_pos _))
  · cases ps with
    | nil => rfl
    | cons q ps => rfl
  · intro i t ht
    obtain ⟨rfl, rfl⟩ := honly i t ht
    simp
  · intro i t ht
    obtain ⟨rfl, rfl⟩ := honly i t ht
    rfl
  · intro i t ht
    obtain ⟨rfl, rfl⟩ := honly i t ht
    rfl

lemma proceed (hp : p service ps.length c = (.proceed leave, d))
    (ho : Onion service h ps d turns handled) {r : Outcome ε × Call ω}
    (hr : (results turns handled).head? = some r) :
    Onion service h (p :: ps) c (⟨ps.length, c, some d, some r, leave r.1 r.2⟩ :: turns)
      handled := by
  refine ⟨?_, ?_, ?_, ?_, ?_, ?_, ?_, ?_⟩
  · exact Nat.succ_le_succ ho.length_le
  · intro i t q ht hq
    cases i with
    | zero =>
      obtain rfl := Option.some.inj ht
      obtain rfl := Option.some.inj hq
      simp [Turn.Of, hp]
    | succ i => exact ho.turn i t q ht hq
  · intro i hi
    cases i with
    | zero => simp
    | succ i =>
      rw [List.length_cons, Nat.succ_lt_succ_iff, ho.entered i (Nat.lt_of_succ_lt_succ hi),
        Nat.forall_lt_succ_left]
      simp [proceeded_zero, proceeded_succ]
  · rw [ho.reached, List.length_cons, Nat.forall_lt_succ_left]
    simp [proceeded_zero, proceeded_succ]
  · exact ho.handler
  · intro i t ht
    cases i with
    | zero =>
      obtain rfl := Option.some.inj ht
      simp
    | succ i =>
      rw [ho.remaining i t ht, List.length_cons]
      omega
  · intro i t ht
    cases i with
    | zero =>
      obtain rfl := Option.some.inj ht
      rfl
    | succ i => exact ho.arrival i t ht
  · intro i t ht
    cases i with
    | zero =>
      obtain rfl := Option.some.inj ht
      rw [← hr, List.head?_eq_getElem?]
      rfl
    | succ i => exact ho.received i t ht

end Onion

lemma runFrom_cons (place : Nat) (c : Call (Recorded ω ε)) :
    runFrom service h (p :: ps) place c =
      match processor p place service ps.length c with
      | (.stop o, c) => (o, c)
      | (.proceed leave, c) =>
        leave (runFrom service h ps (place + 1) c).1 (runFrom service h ps (place + 1) c).2 := by
  rw [runFrom, List.zipIdx_cons, List.map_cons, Processor.run, List.length_map, List.length_zipIdx]
  rcases processor p place service ps.length c with ⟨o | leave, c⟩
  · rfl
  · rfl

lemma runFrom_stop (place : Nat) (lg : List (Event ω ε))
    (hp : p service ps.length c = (.stop o, d)) :
    runFrom service h (p :: ps) place (logged c lg) = (o, logged d
      (lg ++ log place [⟨ps.length, c, none, none, (o, d)⟩] none)) := by
  have hstep : processor p place service ps.length (logged c lg) =
      (.stop o, logged d (lg ++ [.entered place ps.length c] ++ [.left place none (o, d)])) := by
    have hbare : p service ps.length (bare (logged c lg)) = (.stop o, d) := hp
    rw [processor, hbare]
    rfl
  rw [runFrom_cons, hstep]
  simp [log, waysIn, waysOut]

lemma runFrom_proceed (place : Nat) (lg : List (Event ω ε))
    (hp : p service ps.length c = (.proceed leave, d)) {r : Outcome ε × Call ω}
    (hrun : runFrom service h ps (place + 1)
        (logged d (lg ++ [.entered place ps.length c, .proceeded place d])) =
      (r.1, logged r.2 (lg ++ [.entered place ps.length c, .proceeded place d] ++
        log (place + 1) turns handled))) :
    runFrom service h (p :: ps) place (logged c lg) =
      ((leave r.1 r.2).1, logged (leave r.1 r.2).2 (lg ++
        log place (⟨ps.length, c, some d, some r, leave r.1 r.2⟩ :: turns) handled)) := by
  have hstep : processor p place service ps.length (logged c lg) =
      (.proceed fun o e => ((leave o (bare e)).1, logged (leave o (bare e)).2
          (e.world.2 ++ [.left place (some (o, bare e)) (leave o (bare e))])),
        logged d (lg ++ [.entered place ps.length c] ++ [.proceeded place d])) := by
    have hbare : p service ps.length (bare (logged c lg)) = (.proceed leave, d) := hp
    rw [processor, hbare]
    rfl
  rw [List.append_assoc, List.singleton_append] at hstep
  have hlog : log place (⟨ps.length, c, some d, some r, leave r.1 r.2⟩ :: turns) handled =
      [.entered place ps.length c, .proceeded place d] ++ log (place + 1) turns handled ++
        [.left place (some r) (leave r.1 r.2)] := by
    simp [log, waysIn, waysOut]
  rw [runFrom_cons, hstep]
  simp only [hrun, hlog, bare_logged, snd_world_logged, List.append_assoc]

/-- Every run is recorded as an onion, and ends as it does when nobody records it. -/
lemma exists_onion (service : ServiceDescriptor) (h : Handler ω ε) (ps : List (Processor ω ε))
    (c : Call ω) (place : Nat) (lg : List (Event ω ε)) :
    let r := Processor.run service h ps c
    ∃ turns handled, Onion service h ps c turns handled ∧
      (results turns handled).head? = some r ∧
      runFrom service h ps place (logged c lg) =
        (r.1, logged r.2 (lg ++ log place turns handled)) := by
  induction ps generalizing c place lg with
  | nil => exact ⟨[], some (h service c), .nil, rfl, rfl⟩
  | cons p ps ih =>
    rcases hp : p service ps.length c with ⟨o | leave, d⟩
    · have hr : Processor.run service h (p :: ps) c = (o, d) := by rw [Processor.run, hp]
      rw [hr]
      exact ⟨_, none, .stop hp, rfl, runFrom_stop place lg hp⟩
    · obtain ⟨turns, handled, honion, hhead, hrun⟩ := ih d (place + 1)
        (lg ++ [.entered place ps.length c, .proceeded place d])
      have hr : Processor.run service h (p :: ps) c =
          leave (Processor.run service h ps d).1 (Processor.run service h ps d).2 := by
        rw [Processor.run, hp]
      rw [hr]
      exact ⟨_, handled, honion.proceed hp hhead, rfl, runFrom_proceed place lg hp hrun⟩

/-- The turn that a result came back to. -/
lemma Onion.turn_before (ho : Onion service h ps c turns handled) {i : Nat}
    {r : Outcome ε × Call ω} (hr : (results turns handled)[i + 1]? = some r) :
    ∃ (t : Turn ω ε) (p : Processor ω ε), ps[i]? = some p ∧ t.Of service p ∧ t.received = some r ∧
      (results turns handled)[i]? = some t.returned := by
  have hi : i < turns.length := by
    obtain ⟨hi, -⟩ := List.getElem?_eq_some_iff.mp hr
    have hone : handled.toList.length ≤ 1 := by cases handled <;> simp
    rw [results, List.length_append, List.length_map] at hi
    omega
  have ht : turns[i]? = some turns[i] := List.getElem?_eq_getElem hi
  have hips : i < ps.length := Nat.lt_of_lt_of_le hi ho.length_le
  have hp : ps[i]? = some ps[i] := List.getElem?_eq_getElem hips
  refine ⟨turns[i], ps[i], hp, ho.turn i _ _ ht hp, (ho.received i _ ht).trans hr, ?_⟩
  rw [results, List.getElem?_append_left (by rwa [List.length_map]), List.getElem?_map, ht]
  rfl

/-! ### Panics -/

lemma Onion.panic_passes (ho : Onion service h ps c turns handled) {i : Nat} {payload : String}
    (hr : (results turns handled)[i + 1]? = some (.panic payload, d))
    (hp : ∀ p, ps[i]? = some p → p.PassesPanics) :
    (results turns handled)[i]? = some (.panic payload, d) := by
  obtain ⟨t, p, hq, hturn, hreceived, hresult⟩ := ho.turn_before hr
  rw [hresult]
  unfold Turn.Of at hturn
  split at hturn
  · rw [hreceived] at hturn
    exact absurd hturn.2.1 (Option.some_ne_none _)
  · next leave e he =>
    obtain ⟨-, r, hr', hreturned⟩ := hturn
    obtain rfl := Option.some.inj (hreceived.symm.trans hr')
    rw [hreturned, hp _ hq service _ _ leave e he payload d]

lemma Onion.panic_reaches (ho : Onion service h ps c turns handled) {i j : Nat} {payload : String}
    (hij : j ≤ i) (hr : (results turns handled)[i]? = some (.panic payload, d))
    (hp : ∀ (m : Nat) (p : Processor ω ε), j ≤ m → m < i → ps[m]? = some p → p.PassesPanics) :
    (results turns handled)[j]? = some (.panic payload, d) := by
  induction hij with
  | refl => exact hr
  | @step i hij ih =>
    have hi := ho.panic_passes hr fun p => hp i p hij (Nat.lt_succ_self i)
    exact ih hi fun m p hjm hmi => hp m p hjm (Nat.lt_succ_of_lt hmi)

end Passage

open Passage in
/-- **Every run through a list of processors is an onion.** Recorded or not it ends in the same
way, with what the first processor returned, or the handler if there is none. A panic comes
through to the caller, or to the first processor on its way that catches any, as it was raised
and with the call as it was then. A call through a chain is the run through its list, with a
handler that marks the status. -/
theorem run_onion (service : ServiceDescriptor) (h : Handler ω ε) (ps : List (Processor ω ε))
    (c : Call ω) :
    let r := Processor.run service h ps c
    (∃ turns handled, Onion service h ps c turns handled ∧
      runFrom service h ps 0 (logged c []) = (r.1, logged r.2 (log 0 turns handled)) ∧
      (results turns handled).head? = some r ∧
      ∀ (i j : Nat) (payload : String) (d : Call ω), j ≤ i →
        (results turns handled)[i]? = some (.panic payload, d) →
        (∀ (m : Nat) (p : Processor ω ε), j ≤ m → m < i → ps[m]? = some p → p.PassesPanics) →
          (results turns handled)[j]? = some (.panic payload, d)) ∧
      ∀ (κ : Type) (chainOf : ω → Chain κ) (behaviour : κ → Processor ω ε) (h' : Handler ω ε),
        h = h'.marking → ps = (chainOf c.world).installed.map behaviour →
          Chain.invoke chainOf behaviour h' service c = r := by
  intro r
  obtain ⟨turns, handled, honion, hhead, hrun⟩ := exists_onion service h ps c 0 []
  refine ⟨⟨turns, handled, honion, hrun, hhead, fun i j payload d hij =>
    honion.panic_reaches hij⟩, fun κ chainOf behaviour h' hh hps => ?_⟩
  subst hh hps
  rfl

open Passage in
/-- The handler panics behind a processor that lets it pass and one that catches it. -/
example (c : Call Unit) :
    let passing : Processor Unit Unit := fun _ _ c => (.proceed fun o c => (o, c), c)
    let catching : Processor Unit Unit := fun _ _ c =>
      (.proceed fun o c => (if o.failed then .err () else o, c), c)
    runFrom (Demo.service 1) (fun _ c => (.panic "no", c)) [catching, passing] 0 (logged c []) =
      (.err (), logged c [.entered 0 1 c, .proceeded 0 c, .entered 1 0 c, .proceeded 1 c,
        .handled (.panic "no", c), .left 1 (some (.panic "no", c)) (.panic "no", c),
        .left 0 (some (.panic "no", c)) (.err (), c)]) := rfl

end CallWatch
