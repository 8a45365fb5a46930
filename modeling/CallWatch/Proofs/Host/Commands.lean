import CallWatch.Host
import Mathlib.Data.List.Forall2
import Mathlib.Tactic.Common
import Mathlib.Tactic.Lemma

/-!
Everything that can be done with a host, as commands with replies.

Whatever a command does to the monitors it does by the events of their watches; the scopes, the
live pipelines and the chain are not touched by these. So a relation between watches that every
event respects carries over to hosts, command by command.
-/

namespace CallWatch

namespace Host

/-! ### Commands -/

/-- What is asked of a monitor about itself; a snapshot can be taken, but not be restored. -/
inductive Observation where
  | report (i : Nat) (now : Instant)
  | snapshot (i : Nat) (now : Instant)
  | restore (i : Nat) (p : UsageReport)

def observe (h : Host) : Observation → Option (Except Envelope UsageReport) × Host
  | .report i now | .snapshot i now =>
    match h.report? i now with
    | some r => (some (.ok r.1), r.2)
    | none => (none, h)
  | .restore i _ => (h.members[i]?.map fun _ => .error SnapshotKind.usageMonitor.restore, h)

inductive Command (ε : Type) where
  | bind (thread : Nat) (s : InvokeState)
  | enter (t : Thread) (service : ServiceDescriptor) (pipeline : Pipeline) (now : Instant)
  | edit (thread : Nat) (k : String) (v : Json)
  | finish (thread : Nat) (o : Outcome ε) (n : Nat)
  | install (i : Nat)
  | uninstall (i : Nat)
  | start (i : Nat) (now : Instant)
  | stop (i : Nat)
  | counters (i : Nat)
  | tracks (i : Nat) (thread : Nat)
  | observe (o : Observation)

inductive Reply (ε : Type) where
  | done
  | answered (b : Bool)
  | written (p : Option Pipeline)
  | ended (os : Option (List (Outcome ε)))
  | counted (c : Option (Nat × Nat))
  | observed (a : Option (Except Envelope UsageReport))

variable {ε : Type}

def perform (h : Host) : Command ε → Reply ε × Host
  | .bind thread s => (.done, h.bind thread s)
  | .enter t service pipeline now => (.done, h.enter t service pipeline now)
  | .edit thread k v => let r := h.edit thread k v; (.written r.1, r.2)
  | .finish thread o n => let r := h.finish thread o n; (.ended r.1, r.2)
  | .install i => let r := h.install i; (.answered r.1, r.2)
  | .uninstall i => let r := h.uninstall i; (.answered r.1, r.2)
  | .start i now => let r := h.startMonitor i now; (.answered r.1, r.2)
  | .stop i => let r := h.stopMonitor i; (.answered r.1, r.2)
  | .counters i =>
    (.counted (h.members[i]?.map fun m => (m.watch.monitor.invocations, m.watch.monitor.errors)), h)
  | .tracks i thread =>
    (.answered (h.members[i]?.any fun m => m.watch.monitor.registry.tracks thread), h)
  | .observe o => let r := h.observe o; (.observed r.1, r.2)

/-- The events that a command can bring to a watch. -/
def Command.Causes : Command ε → Event → Prop
  | .enter t service pipeline now, e => ∃ state, e = .enter t service pipeline state now
  | .finish thread o _, e => e = .leave thread o.failed
  | .start _ now, e => e = .start now
  | .stop _, e => e = .stop
  | .observe (.report _ now), e | .observe (.snapshot _ now), e => e = .report now
  | _, _ => False

/-! ### Relations -/

/-- Two watches in the relation answer a command alike and stay in it. -/
structure Command.Respects (c : Command ε) (R : Watch → Watch → Prop) : Prop where
  react : ∀ w w' e, c.Causes e → R w w' →
    (w.react e).1 = (w'.react e).1 ∧ R (w.step e) (w'.step e)
  counters : ∀ w w', R w w' → w.monitor.invocations = w'.monitor.invocations ∧
    w.monitor.errors = w'.monitor.errors
  registry : ∀ w w', R w w' → w.monitor.registry = w'.monitor.registry

end Host

/-- Two members that differ only in their watches, which are in the relation. -/
structure Member.Related (R : Watch → Watch → Prop) (m m' : Member) : Prop where
  watch : R m.watch m'.watch
  fixed : m.fixed = m'.fixed

namespace Host

structure Related (R : Watch → Watch → Prop) (h h' : Host) : Prop where
  members : List.Forall₂ (Member.Related R) h.members h'.members
  chain : h.chain = h'.chain
  ambient : h.ambient = h'.ambient
  levels : h.levels = h'.levels

section

variable {α β : Type} {S : α → β → Prop} {xs : List α} {ys : List β}

lemma forall₂_modify (h : List.Forall₂ S xs ys) {f : α → α} {g : β → β}
    (hfg : ∀ a b, S a b → S (f a) (g b)) (i : Nat) :
    List.Forall₂ S (xs.modify i f) (ys.modify i g) := by
  induction h generalizing i with
  | nil => simp
  | cons hab h ih =>
    cases i with
    | zero => simpa using ⟨hfg _ _ hab, h⟩
    | succ i => simpa using ⟨hab, ih i⟩

lemma forall₂_getElem? (h : List.Forall₂ S xs ys) (i : Nat) :
    xs[i]? = none ∧ ys[i]? = none ∨ ∃ a b, xs[i]? = some a ∧ ys[i]? = some b ∧ S a b := by
  induction h generalizing i with
  | nil => simp
  | cons hab _ ih =>
    cases i with
    | zero => exact Or.inr ⟨_, _, rfl, rfl, hab⟩
    | succ i => simpa using ih i

end

namespace Related

variable {ε : Type} {R : Watch → Watch → Prop} {c : Command ε} {h h' : Host}

lemma setWatch (hr : Related R h h') {f f' : Watch → Watch}
    (hf : ∀ w w', R w w' → R (f w) (f' w')) (i : Nat) :
    Related R (h.setWatch i f) (h'.setWatch i f') where
  members := by
    refine forall₂_modify hr.members ?_ i
    exact fun m m' hm => ⟨hf _ _ hm.watch, hm.fixed⟩
  chain := hr.chain
  ambient := hr.ambient
  levels := hr.levels

lemma setWatch_left (hr : Related R h h') {f : Watch → Watch} (hf : ∀ w w', R w w' → R (f w) w')
    (i : Nat) : Related R (h.setWatch i f) h' := by
  have hid : h'.setWatch i id = h' := by
    rw [Host.setWatch, show (fun m : Member => { m with watch := id m.watch }) = id from rfl,
      List.modify_id]
  exact hid ▸ hr.setWatch hf i

lemma push (hr : Related R h h') (thread : Nat) (l : Level) :
    Related R (h.push thread l) (h'.push thread l) where
  members := hr.members
  chain := hr.chain
  ambient := hr.ambient
  levels := by simp only [Host.push, hr.levels]

lemma foldl {α : Type} {f f' : Host → α → Host} (hr : Related R h h')
    (hf : ∀ h h' a, Related R h h' → Related R (f h a) (f' h' a)) (xs : List α) :
    Related R (xs.foldl f h) (xs.foldl f' h') := by
  induction xs generalizing h h' with
  | nil => exact hr
  | cons a xs ih => exact ih (hf h h' a hr)

/-! ### Calls -/

lemma stateFor (hr : Related R h h') {m m' : Member} (hm : m.Related R m') (thread : Nat) :
    h.stateFor m thread = h'.stateFor m' thread := by
  unfold Host.stateFor
  rw [hm.fixed, hr.ambient]

lemma enter {t : Thread} {service : ServiceDescriptor} {pipeline : Pipeline} {now : Instant}
    (hc : (Command.enter t service pipeline now : Command ε).Respects R) (hr : Related R h h') :
    Related R (h.enter t service pipeline now) (h'.enter t service pipeline now) := by
  have hone (g g' : Host) (i : Nat) (hr : Related R g g') :
      Related R (g.enterOne t service pipeline now i) (g'.enterOne t service pipeline now i) := by
    refine ⟨forall₂_modify hr.members (fun m m' hm => ?_) i, hr.chain, hr.ambient, hr.levels⟩
    rw [hr.stateFor hm]
    exact ⟨(hc.react _ _ _ ⟨_, rfl⟩ hm.watch).2, hm.fixed⟩
  simp only [Host.enter, hr.chain]
  exact (hr.foldl hone _).push _ _

lemma endLevel {thread : Nat} {failed : Bool} (hr : Related R h h')
    (hleave : ∀ w w', R w w' → R (w.leave thread failed) (w'.leave thread failed)) :
    Related R (h.endLevel thread failed) (h'.endLevel thread failed) := by
  have hl := congrFun hr.levels thread
  unfold Host.endLevel
  rcases hls : h'.levels thread with _ | ⟨_ | ⟨p, through⟩, rest⟩ <;> rw [hls] at hl <;>
    simp only [hl]
  · exact hr
  · exact ⟨hr.members, hr.chain, by rw [hr.ambient], by rw [hr.levels]⟩
  · have hrest : Related R { h with levels := setAt h.levels thread rest }
        { h' with levels := setAt h'.levels thread rest } :=
      ⟨hr.members, hr.chain, hr.ambient, by rw [hr.levels]⟩
    exact hrest.foldl (fun _ _ i hr => hr.setWatch hleave i) _

lemma finish {thread : Nat} {o : Outcome ε} {n : Nat}
    (hc : (Command.finish thread o n : Command ε).Respects R) (hr : Related R h h') :
    (h.finish thread o n).1 = (h'.finish thread o n).1 ∧
      Related R (h.finish thread o n).2 (h'.finish thread o n).2 := by
  have hleave : ∀ w w', R w w' → R (w.leave thread o.failed) (w'.leave thread o.failed) :=
    fun w w' hw => (hc.react w w' _ rfl hw).2
  unfold Host.finish
  rw [hr.levels]
  rcases h'.levels thread with _ | ⟨l, ls⟩
  · exact ⟨rfl, hr⟩
  · exact ⟨rfl, hr.foldl (fun _ _ _ hr => hr.endLevel hleave) _⟩

lemma edit (hr : Related R h h') (thread : Nat) (k : String) (v : Json) :
    (h.edit thread k v).1 = (h'.edit thread k v).1 ∧
      Related R (h.edit thread k v).2 (h'.edit thread k v).2 := by
  unfold Host.edit
  rw [hr.levels]
  rcases h'.levels thread with _ | ⟨_ | ⟨p, through⟩, rest⟩
  · exact ⟨rfl, hr⟩
  · exact ⟨rfl, hr⟩
  · exact ⟨rfl, hr.members, hr.chain, hr.ambient, rfl⟩

/-! ### Monitors -/

lemma startMonitor {i : Nat} {now : Instant} (hc : (Command.start i now : Command ε).Respects R)
    (hr : Related R h h') : (h.startMonitor i now).1 = (h'.startMonitor i now).1 ∧
      Related R (h.startMonitor i now).2 (h'.startMonitor i now).2 := by
  have hstart (w w' : Watch) (hw : R w w') := hc.react w w' (.start now) rfl hw
  unfold Host.startMonitor
  rcases forall₂_getElem? hr.members i with ⟨hm, hm'⟩ | ⟨m, m', hm, hm', hmm⟩ <;> rw [hm, hm']
  · exact ⟨rfl, hr⟩
  · exact ⟨Answer.changed.inj (hstart _ _ hmm.watch).1,
      hr.setWatch (fun w w' hw => (hstart w w' hw).2) i⟩

lemma stopMonitor {i : Nat} (hc : (Command.stop i : Command ε).Respects R)
    (hr : Related R h h') : (h.stopMonitor i).1 = (h'.stopMonitor i).1 ∧
      Related R (h.stopMonitor i).2 (h'.stopMonitor i).2 := by
  have hstop (w w' : Watch) (hw : R w w') := hc.react w w' .stop rfl hw
  unfold Host.stopMonitor
  rcases forall₂_getElem? hr.members i with ⟨hm, hm'⟩ | ⟨m, m', hm, hm', hmm⟩ <;> rw [hm, hm']
  · exact ⟨rfl, hr⟩
  · exact ⟨Answer.changed.inj (hstop _ _ hmm.watch).1,
      hr.setWatch (fun w w' hw => (hstop w w' hw).2) i⟩

lemma report {i : Nat} {now : Instant} (hr : Related R h h')
    (hreport : ∀ w w', R w w' →
      (w.report now).1 = (w'.report now).1 ∧ R (w.report now).2 (w'.report now).2) :
    h.report? i now = none ∧ h'.report? i now = none ∨ ∃ p g g', h.report? i now = some (p, g) ∧
      h'.report? i now = some (p, g') ∧ Related R g g' := by
  unfold Host.report?
  rcases forall₂_getElem? hr.members i with ⟨hm, hm'⟩ | ⟨m, m', hm, hm', hmm⟩ <;> rw [hm, hm']
  · exact Or.inl ⟨rfl, rfl⟩
  · refine Or.inr ⟨_, _, _, rfl, ?_, hr.setWatch (fun w w' hw => (hreport w w' hw).2) i⟩
    rw [Option.map_some, (hreport _ _ hmm.watch).1]

lemma observe {o : Observation} (hc : (Command.observe o : Command ε).Respects R)
    (hr : Related R h h') : (h.observe o).1 = (h'.observe o).1 ∧
      Related R (h.observe o).2 (h'.observe o).2 := by
  cases o with
  | report i now | snapshot i now =>
    have hreport (w w' : Watch) (hw : R w w') := hc.react w w' (.report now) rfl hw
    have hask := hr.report (i := i) fun w w' hw =>
      ⟨Answer.reported.inj (hreport w w' hw).1, (hreport w w' hw).2⟩
    unfold Host.observe
    rcases hask with ⟨hp, hp'⟩ | ⟨p, g, g', hp, hp', hg⟩
    · simp only [hp, hp', true_and]
      exact hr
    · simp only [hp, hp', true_and]
      exact hg
  | restore i p =>
    refine ⟨?_, hr⟩
    unfold Host.observe
    rcases forall₂_getElem? hr.members i with ⟨hm, hm'⟩ | ⟨m, m', hm, hm', -⟩ <;> simp [hm, hm']

/-! ### Commands -/

lemma perform (hc : c.Respects R) (hr : Related R h h') :
    (h.perform c).1 = (h'.perform c).1 ∧ Related R (h.perform c).2 (h'.perform c).2 := by
  cases c with
  | bind thread s =>
    refine ⟨rfl, ?_⟩
    have hbound : Related R { h with ambient := (h'.ambient.bind thread s).2 }
        { h' with ambient := (h'.ambient.bind thread s).2 } :=
      ⟨hr.members, hr.chain, rfl, hr.levels⟩
    simp only [Host.perform, Host.bind, hr.ambient]
    exact hbound.push _ _
  | enter t service pipeline now => exact ⟨rfl, hr.enter hc⟩
  | edit thread k v =>
    obtain ⟨hreply, hnext⟩ := hr.edit thread k v
    exact ⟨congrArg Reply.written hreply, hnext⟩
  | finish thread o n =>
    obtain ⟨hreply, hnext⟩ := hr.finish hc
    exact ⟨congrArg Reply.ended hreply, hnext⟩
  | install i | uninstall i =>
    simp only [Host.perform, Host.install, Host.uninstall, hr.chain, true_and]
    exact ⟨hr.members, rfl, hr.ambient, hr.levels⟩
  | start i now =>
    obtain ⟨hreply, hnext⟩ := hr.startMonitor hc
    exact ⟨congrArg Reply.answered hreply, hnext⟩
  | stop i =>
    obtain ⟨hreply, hnext⟩ := hr.stopMonitor hc
    exact ⟨congrArg Reply.answered hreply, hnext⟩
  | counters i =>
    refine ⟨?_, hr⟩
    unfold Host.perform
    rcases forall₂_getElem? hr.members i with ⟨hm, hm'⟩ | ⟨m, m', hm, hm', hmm⟩
    · simp only [hm, hm']
    · obtain ⟨hi, he⟩ := hc.counters _ _ hmm.watch
      simp only [hm, hm', hi, he, Option.map_some]
  | tracks i thread =>
    refine ⟨?_, hr⟩
    unfold Host.perform
    rcases forall₂_getElem? hr.members i with ⟨hm, hm'⟩ | ⟨m, m', hm, hm', hmm⟩
    · simp only [hm, hm']
    · simp only [hm, hm', hc.registry _ _ hmm.watch, Option.any_some]
  | observe o =>
    obtain ⟨hreply, hnext⟩ := hr.observe hc
    exact ⟨congrArg Reply.observed hreply, hnext⟩

end Related

end Host

end CallWatch
