import CallWatch.Proofs.Chain.Passage
import CallWatch.Chain.Script

/-!
The status of a call records how its service ended.

Processors that do not write the status hand it down to the handler and up again as it is, in
whatever way they end the call, replace its outcome or panic. So only the end of the chain can
change it: through an installed chain the handler is marked there with its own outcome, in a bare
run it is not. In the record of a run the status is that of the beginning at every event on the
way in, and that of the end at every event on the way out.
-/

namespace CallWatch

variable {ω ε κ : Type}

/-- A processor that does not write the status, on the way in or on the way back. -/
def Processor.KeepsStatus (p : Processor ω ε) : Prop :=
  ∀ service n c, (p service n c).2.status = c.status ∧
    ∀ leave d, p service n c = (.proceed leave, d) → ∀ o e, (leave o e).2.status = e.status

/-- A handler that does not write the status of a call. -/
def Handler.KeepsStatus (h : Handler ω ε) (service : ServiceDescriptor) (c : Call ω) : Prop :=
  (h service c).2.status = c.status

/-- The call as it comes to the handler; none if a processor ends it before. -/
def Processor.reaching (service : ServiceDescriptor) :
    List (Processor ω ε) → Call ω → Option (Call ω)
  | [], c => some c
  | p :: ps, c =>
    match p service ps.length c with
    | (.stop _, _) => none
    | (.proceed _, d) => reaching service ps d

/-- The status after a handler that left it as `s`. -/
def Status.after (s : Status) : Outcome ε → Status
  | .ok => .markedCompleted
  | .err _ => .markedFailed
  | .panic _ => s

variable {service : ServiceDescriptor} {h : Handler ω ε} {ps : List (Processor ω ε)} {c d : Call ω}
  {p : Processor ω ε}

lemma Handler.status_marking (h : Handler ω ε) (service : ServiceDescriptor) (c : Call ω) :
    (h.marking service c).2.status = (h service c).2.status.after (h service c).1 := by
  unfold Handler.marking
  rcases h service c with ⟨_ | e | payload, d⟩ <;> rfl

namespace Processor

lemma status_reaching (hps : ∀ p ∈ ps, p.KeepsStatus) (hd : reaching service ps c = some d) :
    d.status = c.status := by
  induction ps generalizing c with
  | nil =>
    obtain rfl := Option.some.inj hd
    rfl
  | cons p ps ih =>
    obtain ⟨hin, -⟩ := hps p List.mem_cons_self service ps.length c
    rw [reaching] at hd
    rcases hp : p service ps.length c with ⟨o | leave, e⟩
    · simp [hp] at hd
    · simp only [hp] at hd hin
      exact (ih (fun q hq => hps q (List.mem_cons_of_mem _ hq)) hd).trans hin

/-- What the handler leaves in the status, if it is reached, is what the run leaves there. -/
lemma status_run (h : Handler ω ε) (hps : ∀ p ∈ ps, p.KeepsStatus) :
    (run service h ps c).2.status =
      (reaching service ps c).elim c.status fun d => (h service d).2.status := by
  induction ps generalizing c with
  | nil => rfl
  | cons p ps ih =>
    obtain ⟨hin, hback⟩ := hps p List.mem_cons_self service ps.length c
    rw [run, reaching]
    rcases hp : p service ps.length c with ⟨o | leave, e⟩
    · rw [hp] at hin
      exact hin
    · rw [hp] at hin
      have hrun := ih (c := e) fun q hq => hps q (List.mem_cons_of_mem _ hq)
      rw [← hin]
      exact (hback leave e hp _ _).trans hrun

end Processor

namespace Passage

variable {t : Turn ω ε} {turns : List (Turn ω ε)} {handled : Option (Outcome ε × Call ω)}
  {r x : Outcome ε × Call ω} {i : Nat}

/-- The status at an event of a run that begins with one status and ends with another. -/
def Event.Shows (first last : Status) : Event ω ε → Prop
  | .entered _ _ d => d.status = first
  | .proceeded _ d => d.status = first
  | .handled r => r.2.status = last
  | .left _ received returned =>
    (∀ r, received = some r → r.2.status = last) ∧ returned.2.status = last

lemma Turn.Of.status_sent (ht : t.Of service p) (hp : p.KeepsStatus) (hd : t.sent = some d) :
    d.status = t.arrival.status := by
  obtain ⟨hin, -⟩ := hp service t.remaining t.arrival
  unfold Turn.Of at ht
  split at ht
  · simp [ht.1] at hd
  · next leave e he =>
    obtain rfl := Option.some.inj (ht.1.symm.trans hd)
    rwa [he] at hin

lemma Turn.Of.status_returned (ht : t.Of service p) (hp : p.KeepsStatus)
    (hx : t.received = some x) : t.returned.2.status = x.2.status := by
  obtain ⟨-, hback⟩ := hp service t.remaining t.arrival
  unfold Turn.Of at ht
  split at ht
  · simp [ht.2.1] at hx
  · next leave e he =>
    obtain ⟨-, y, hy, hreturned⟩ := ht
    obtain rfl := Option.some.inj (hy.symm.trans hx)
    rw [hreturned]
    exact hback leave e he _ _

lemma mem_log {event : Event ω ε} {place : Nat} (he : event ∈ log place turns handled) :
    (∃ i t, t ∈ turns ∧ (event = .entered i t.remaining t.arrival ∨
        (∃ d, t.sent = some d ∧ event = .proceeded i d) ∨
        event = .left i t.received t.returned)) ∨
      ∃ x, handled = some x ∧ event = .handled x := by
  rw [log, List.mem_append, List.mem_append, List.mem_reverse] at he
  rcases he with (hin | hhandled) | hout
  · obtain ⟨⟨t, i⟩, hti, he⟩ := List.mem_flatMap.mp hin
    have ht : t ∈ turns := List.fst_mem_of_mem_zipIdx hti
    rcases List.mem_cons.mp he with he | he
    · exact .inl ⟨i, t, ht, .inl he⟩
    · obtain ⟨d, hd, hde⟩ := Option.map_eq_some_iff.mp (Option.mem_toList.mp he)
      exact .inl ⟨i, t, ht, .inr (.inl ⟨d, hd, hde.symm⟩)⟩
  · obtain ⟨x, hx, hxe⟩ := List.mem_map.mp hhandled
    exact .inr ⟨x, Option.mem_toList.mp hx, hxe.symm⟩
  · obtain ⟨⟨t, i⟩, hti, he⟩ := List.mem_map.mp hout
    exact .inl ⟨i, t, List.fst_mem_of_mem_zipIdx hti, .inr (.inr he.symm)⟩

lemma handled_mem_log {place : Nat} : .handled x ∈ log place turns handled ↔ handled = some x := by
  constructor
  · intro hx
    rcases mem_log hx with ⟨_, _, _, he | ⟨_, _, he⟩ | he⟩ | ⟨y, hy, he⟩
    · nomatch he
    · nomatch he
    · nomatch he
    · rwa [Event.handled.inj he]
  · rintro rfl
    exact List.mem_append_left _ (List.mem_append_right _ (List.mem_singleton_self _))

namespace Onion

lemma turn_of (ho : Onion service h ps c turns handled) (ht : turns[i]? = some t) :
    ∃ p ∈ ps, t.Of service p := by
  have hi : i < turns.length := (List.getElem?_eq_some_iff.mp ht).1
  have hp := List.getElem?_eq_getElem (Nat.lt_of_lt_of_le hi ho.length_le)
  exact ⟨_, List.mem_of_getElem? hp, ho.turn i t _ ht hp⟩

/-- On the way in the status stays as it came. -/
lemma status_arrival (ho : Onion service h ps c turns handled) (hps : ∀ p ∈ ps, p.KeepsStatus)
    (ht : turns[i]? = some t) : t.arrival.status = c.status := by
  induction i generalizing t with
  | zero =>
    have harrival : some c = some t.arrival := Option.some.inj (ho.arrival 0 t ht)
    rw [Option.some.inj harrival]
  | succ i ih =>
    have harrival : (turns.map Turn.sent)[i]? = some (some t.arrival) := ho.arrival (i + 1) t ht
    rw [List.getElem?_map, Option.map_eq_some_iff] at harrival
    obtain ⟨s, hs, hsent⟩ := harrival
    obtain ⟨p, hp, hof⟩ := ho.turn_of hs
    exact (hof.status_sent (hps p hp) hsent).trans (ih hs)

/-- On the way back it stays as the last one who was reached left it. -/
lemma status_results (ho : Onion service h ps c turns handled) (hps : ∀ p ∈ ps, p.KeepsStatus)
    (hr : (results turns handled).head? = some r) (hx : (results turns handled)[i]? = some x) :
    x.2.status = r.2.status := by
  induction i generalizing x with
  | zero =>
    rw [List.head?_eq_getElem?] at hr
    rw [Option.some.inj (hx.symm.trans hr)]
  | succ i ih =>
    obtain ⟨t, p, hp, hof, hreceived, hresult⟩ := ho.turn_before hx
    have hreturned := hof.status_returned (hps p (List.mem_of_getElem? hp)) hreceived
    exact hreturned.symm.trans (ih hresult)

/-- Without its first turn an onion is that of the call which was sent on. -/
lemma tail (ho : Onion service h (p :: ps) c (t :: turns) handled) (hd : t.sent = some d) :
    Onion service h ps d turns handled := by
  refine ⟨Nat.le_of_succ_le_succ ho.length_le, fun i => ho.turn (i + 1), fun i hi => ?_, ?_, ?_,
    fun i s hs => ?_, fun i s hs => ?_, fun i => ho.received (i + 1)⟩
  · have hentered := ho.entered (i + 1) (Nat.succ_lt_succ hi)
    rw [List.length_cons, Nat.succ_lt_succ_iff, Nat.forall_lt_succ_left] at hentered
    simpa [proceeded_zero, proceeded_succ, hd] using hentered
  · have hreached := ho.reached
    rw [List.length_cons, Nat.forall_lt_succ_left] at hreached
    simpa [proceeded_zero, proceeded_succ, hd] using hreached
  · have hhandler := ho.handler
    rwa [List.length_cons, arrivals, List.getElem?_cons_succ, List.map_cons, hd] at hhandler
  · have hremaining := ho.remaining (i + 1) s hs
    rw [List.length_cons] at hremaining
    omega
  · have harrival := ho.arrival (i + 1) s hs
    rwa [arrivals, List.getElem?_cons_succ, List.map_cons, hd] at harrival

lemma handled_eq (ho : Onion service h ps c turns handled) :
    handled = (Processor.reaching service ps c).map (h service) := by
  induction ps generalizing c turns with
  | nil => exact ho.handler
  | cons p ps ih =>
    obtain ⟨t, ts, rfl⟩ : ∃ t ts, turns = t :: ts :=
      List.exists_cons_of_length_pos ((ho.entered 0 (Nat.succ_pos _)).mpr nofun)
    have hc : c = t.arrival := Option.some.inj (Option.some.inj (ho.arrival 0 t rfl))
    have hn : t.remaining = ps.length := ho.remaining 0 t rfl
    have hof : t.Of service p := ho.turn 0 t p rfl rfl
    rw [Processor.reaching]
    rw [Turn.Of, hn, ← hc] at hof
    rcases hp : p service ps.length c with ⟨o | leave, d⟩
    · simp only [hp] at hof ⊢
      refine Option.not_isSome_iff_eq_none.mp fun hsome => ?_
      have hsent := proceeded_zero.mp (ho.reached.mp hsome 0 (Nat.succ_pos _))
      simp [hof.1] at hsent
    · simp only [hp] at hof ⊢
      exact ih (ho.tail hof.1)

lemma shows_log (ho : Onion service h ps c turns handled) (hps : ∀ p ∈ ps, p.KeepsStatus)
    (hr : (results turns handled).head? = some r) (place : Nat) :
    ∀ event ∈ log place turns handled, event.Shows c.status r.2.status := by
  have hresults (x : Outcome ε × Call ω) (hx : x ∈ results turns handled) :
      x.2.status = r.2.status := by
    obtain ⟨i, hi⟩ := List.getElem?_of_mem hx
    exact ho.status_results hps hr hi
  intro event hevent
  rcases mem_log hevent with ⟨place, t, ht, rfl | ⟨d, hd, rfl⟩ | rfl⟩ | ⟨x, rfl, rfl⟩
  · obtain ⟨i, hi⟩ := List.getElem?_of_mem ht
    exact ho.status_arrival hps hi
  · obtain ⟨i, hi⟩ := List.getElem?_of_mem ht
    obtain ⟨p, hp, hof⟩ := ho.turn_of hi
    exact (hof.status_sent (hps p hp) hd).trans (ho.status_arrival hps hi)
  · obtain ⟨i, hi⟩ := List.getElem?_of_mem ht
    refine ⟨fun x hx => ?_, hresults _ ?_⟩
    · exact hresults x (List.mem_of_getElem? ((ho.received i t hi).symm.trans hx))
    · exact List.mem_append_left _ (List.mem_map_of_mem ht)
  · exact hresults x (List.mem_append_right _ (List.mem_singleton_self x))

end Onion

end Passage

/-! ### Scripted processors -/

namespace Script

variable {c : Call World}

@[simp] lemma status_note (entry : String) : (note c entry).status = c.status := rfl

@[simp] lemma status_insertInto (e : Option (String × Json)) :
    (insertInto c e).status = c.status := by
  cases e <;> rfl

@[simp] lemma status_registering (name : String) (other : Option String) :
    (registering name c other).status = c.status := by
  cases other <;> rfl

@[simp] lemma status_unregistering (name : String) (other : Option String) :
    (unregistering name c other).status = c.status := by
  cases other <;> rfl

lemma status_leave (name : String) (s : ProcessorScript) (o : Result) :
    (leave name s o c).2.status = c.status := by
  cases o <;> simp [leave]

lemma keepsStatus_processorOf (name : String) (s : ProcessorScript) :
    (processorOf name s).KeepsStatus := by
  intro service n c
  unfold processorOf
  rcases s.stop with _ | r
  · refine ⟨by simp, fun leave d hd o e => ?_⟩
    obtain ⟨hleave, -⟩ := Prod.mk.inj hd
    rw [← Entry.proceed.inj hleave]
    exact status_leave name s o
  · exact ⟨by simp [status_leave], fun leave d hd => absurd (Prod.mk.inj hd).1 nofun⟩

end Script

/-! ### Calls through a chain -/

open Passage in
/-- **The status records how the service itself ended.** If no processor writes it, a call through
a chain that comes to its handler leaves it completed, and failed exactly if the handler returned
an error, whatever came of the outcome on the way back. A call that does not come there leaves it
as it was. A panic is not recorded: the status is then as the handler left it, and as it was before
if the handler does not write it. So it is with every handler in a bare run through the same
processors. In the record of a call every processor gets it with the status as it was, and gets it
back with the status as it will be. -/
theorem status_records_outcome (chainOf : ω → Chain κ) (behaviour : κ → Processor ω ε)
    (h : Handler ω ε) (service : ServiceDescriptor) (c : Call ω)
    (hkeep : ∀ k ∈ (chainOf c.world).installed, (behaviour k).KeepsStatus) :
    let ps := (chainOf c.world).installed.map behaviour
    let r := Chain.invoke chainOf behaviour h service c
    let bare := Processor.run service h ps c
    (∀ d, Processor.reaching service ps c = some d →
      match h service d with
      | (.ok, _) => r.2.status.completed = true ∧ r.2.status.failed = false
      | (.err _, _) => r.2.status.completed = true ∧ r.2.status.failed = true
      | (.panic _, e) =>
        r.2.status = e.status ∧ (h.KeepsStatus service d → r.2.status = c.status)) ∧
      (Processor.reaching service ps c = none → r.2.status = c.status) ∧
      (∃ lg, runFrom service h.marking ps 0 (logged c []) = (r.1, logged r.2 lg) ∧
        (∀ event ∈ lg, event.Shows c.status r.2.status) ∧
        ∀ x, .handled x ∈ lg ↔
          ∃ d, Processor.reaching service ps c = some d ∧ h.marking service d = x) ∧
      (∀ d, Processor.reaching service ps c = some d → bare.2.status = (h service d).2.status ∧
        (h.KeepsStatus service d → bare.2.status = c.status)) ∧
      (Processor.reaching service ps c = none → bare.2.status = c.status) := by
  intro ps r bare
  have hps : ∀ p ∈ ps, p.KeepsStatus := List.forall_mem_map.mpr hkeep
  have hr : r.2.status = _ := Processor.status_run (c := c) h.marking hps
  have hbare : bare.2.status = _ := Processor.status_run (c := c) h hps
  refine ⟨fun d hd => ?_, fun hnone => ?_, ?_, fun d hd => ?_, fun hnone => ?_⟩
  · have hdc := Processor.status_reaching hps hd
    rw [hd, Option.elim_some, Handler.status_marking] at hr
    rcases hhd : h service d with ⟨_ | e | payload, e⟩
    · simp [hr, hhd, Status.after, Status.markedCompleted]
    · simp [hr, hhd, Status.after, Status.markedFailed]
    · simp only [hhd, Status.after] at hr
      simp only [Handler.KeepsStatus, hhd]
      exact ⟨hr, fun he => (hr.trans he).trans hdc⟩
  · rw [hr, hnone, Option.elim_none]
  · obtain ⟨turns, handled, ho, hhead, hrun⟩ := exists_onion service h.marking ps c 0 []
    refine ⟨log 0 turns handled, hrun, ho.shows_log hps hhead 0, fun x => ?_⟩
    rw [handled_mem_log, ho.handled_eq, Option.map_eq_some_iff]
  · rw [hd, Option.elim_some] at hbare
    exact ⟨hbare, fun hh => (hbare.trans hh).trans (Processor.status_reaching hps hd)⟩
  · rw [hbare, hnone, Option.elim_none]

/-- A processor makes a good outcome of every error: the handler's error is gone from the result
and still in the status. Where the handler panics the status of an earlier call remains. -/
theorem status_records_outcome_forgiven :
    let forgiving : Script.ProcessorScript := { Script.noScript with onErr := some none }
    let invoke (h : Handler Script.World String) (status : Status) :=
      Chain.invoke Script.World.chain (fun name => Script.processorOf name forgiving) h
        (Demo.service 1) ⟨.empty, status, ⟨(Chain.empty.register "outer").2, [], []⟩⟩
    let failing := invoke (fun _ c => (.err "no", c)) .fresh
    let panicking := invoke (fun _ c => (.panic "no", c)) .markedCompleted
    (failing.1 = .ok ∧ failing.2.status.completed = true ∧ failing.2.status.failed = true) ∧
      panicking.2.status = .markedCompleted := by
  intro forgiving invoke failing panicking
  have hkeep (name : String) : (Script.processorOf name forgiving).KeepsStatus :=
    Script.keepsStatus_processorOf name forgiving
  refine ⟨⟨rfl, ?_⟩, ?_⟩
  · exact (status_records_outcome Script.World.chain _ (fun _ c => (.err "no", c))
      (Demo.service 1) _ fun name _ => hkeep name).1 _ rfl
  · exact ((status_records_outcome Script.World.chain _ (fun _ c => (.panic "no", c))
      (Demo.service 1) _ fun name _ => hkeep name).1 _ rfl).2 rfl

/-- Nobody but the handler of a call can write its status here: what it writes before it panics
remains, and so does what it writes in a bare run. -/
theorem status_written_by_handler :
    let service := Demo.service 1
    let behaviour (name : String) := Script.processorOf name Script.noScript
    let c : Call Script.World := ⟨.empty, .fresh, ⟨(Chain.empty.register "outer").2, [], []⟩⟩
    let writing (o : Script.Result) : Handler Script.World String :=
      fun _ d => (o, { d with status := .markedFailed })
    let panicking := Chain.invoke Script.World.chain behaviour (writing (.panic "no")) service c
    let bare := Processor.run service (writing .ok) [behaviour "outer"] c
    (∀ name, (behaviour name).KeepsStatus) ∧
      (panicking.1 = .panic "no" ∧ panicking.2.status = .markedFailed) ∧
      (bare.1 = .ok ∧ bare.2.status = .markedFailed) ∧ c.status ≠ .markedFailed :=
  ⟨fun name => Script.keepsStatus_processorOf name _, ⟨rfl, rfl⟩, ⟨rfl, rfl⟩, by decide⟩

end CallWatch
