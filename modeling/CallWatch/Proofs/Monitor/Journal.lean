import CallWatch.Monitor.Watch
import Mathlib.Tactic.Lemma
import Mathlib.Tactic.Common

/-!
What the events of a run say happened, told without a monitor.

A journal lists the calls that came through, latest first: how each began, under which start,
and how it ended. Starts are numbered from one; a call that came while the monitor was
stopped has no number. A call ends by being the latest unfinished one of its thread.
-/

namespace CallWatch

/-- A call that came through. -/
structure Visit where
  thread : Nat
  service : ServiceDescriptor
  pipeline : Pipeline
  state : Except Envelope InvokeState
  now : Instant
  /-- The number of the start under which the call began. -/
  activation : Option Nat
  /-- Whether the call failed; none while it is unfinished. -/
  ended : Option Bool

namespace Visit

/-- A call is registered if the monitor is started and a state is bound when it begins. -/
def registered (v : Visit) : Bool := v.activation.isSome && v.state.isOk

/-- The unfinished calls of a thread, innermost first. -/
def unfinished (n : Nat) (vs : List Visit) : List Visit :=
  vs.filter fun v => v.thread == n && v.ended.isNone

/-- The innermost unfinished call of a thread ends. -/
def finish (n : Nat) (failed : Bool) : List Visit → List Visit
  | [] => []
  | v :: vs =>
    if v.thread = n ∧ v.ended = none then { v with ended := some failed } :: vs
    else v :: finish n failed vs

variable {n m : Nat} {failed : Bool} {v : Visit} {vs rest : List Visit}

lemma unfinished_cons_pos (h : v.thread = n ∧ v.ended = none) :
    unfinished n (v :: vs) = v :: unfinished n vs := by
  simp [unfinished, h]

lemma unfinished_cons_neg (h : ¬(v.thread = n ∧ v.ended = none)) :
    unfinished n (v :: vs) = unfinished n vs := by
  rw [unfinished, List.filter_cons_of_neg]
  · rfl
  · simpa using h

lemma ended_of_unfinished (h : unfinished n vs = v :: rest) : v.ended = none := by
  have hv : v ∈ unfinished n vs := h ▸ List.mem_cons_self
  have := (List.mem_filter.mp hv).2
  simp only [Bool.and_eq_true, Option.isNone_iff_eq_none] at this
  exact this.2

lemma finish_of_nil (h : unfinished n vs = []) : finish n failed vs = vs := by
  induction vs with
  | nil => rfl
  | cons v vs ih =>
    by_cases hv : v.thread = n ∧ v.ended = none
    · simp [unfinished_cons_pos hv] at h
    · rw [unfinished_cons_neg hv] at h
      rw [finish, if_neg hv, ih h]

lemma unfinished_finish_same : unfinished n (finish n failed vs) = (unfinished n vs).tail := by
  induction vs with
  | nil => rfl
  | cons v vs ih =>
    by_cases hv : v.thread = n ∧ v.ended = none
    · rw [finish, if_pos hv, unfinished_cons_pos hv, unfinished_cons_neg (by simp), List.tail_cons]
    · rw [finish, if_neg hv, unfinished_cons_neg hv, unfinished_cons_neg hv, ih]

lemma unfinished_finish_of_ne (h : m ≠ n) :
    unfinished m (finish n failed vs) = unfinished m vs := by
  induction vs with
  | nil => rfl
  | cons v vs ih =>
    by_cases hv : v.thread = n ∧ v.ended = none
    · have hm : v.thread ≠ m := fun he => h (he.symm.trans hv.1)
      rw [finish, if_pos hv, unfinished_cons_neg (by simp), unfinished_cons_neg (by simp [hm])]
    · rw [finish, if_neg hv]
      by_cases hm : v.thread = m ∧ v.ended = none
      · rw [unfinished_cons_pos hm, unfinished_cons_pos hm, ih]
      · rw [unfinished_cons_neg hm, unfinished_cons_neg hm, ih]

/-- Only the call that ends is counted differently. -/
lemma countP_finish (failed : Bool) (p : Visit → Bool) (h : unfinished n vs = v :: rest) :
    (finish n failed vs).countP p + (p v).toNat =
      vs.countP p + (p { v with ended := some failed }).toNat := by
  induction vs with
  | nil => simp [unfinished] at h
  | cons u vs ih =>
    by_cases hu : u.thread = n ∧ u.ended = none
    · rw [unfinished_cons_pos hu] at h
      obtain ⟨rfl, -⟩ := List.cons.inj h
      rw [finish, if_pos hu, List.countP_cons, List.countP_cons]
      cases p u <;> cases p { u with ended := some failed } <;> simp
    · rw [unfinished_cons_neg hu] at h
      rw [finish, if_neg hu, List.countP_cons, List.countP_cons]
      have := ih h
      omega

/-- Every call is unfinished or has ended. -/
lemma countP_eq_add (p : Visit → Bool) : vs.countP p =
    (vs.countP fun v => p v && v.ended.isNone) + vs.countP fun v => p v && v.ended.isSome := by
  induction vs with
  | nil => rfl
  | cons v vs ih =>
    rw [List.countP_cons, List.countP_cons, List.countP_cons, ih]
    cases p v <;> cases v.ended <;> simp <;> omega

lemma mem_finish {u : Visit} (h : u ∈ finish n failed vs) :
    ∃ v ∈ vs, v.activation = u.activation := by
  induction vs with
  | nil => simp [finish] at h
  | cons v vs ih =>
    rw [finish] at h
    split_ifs at h with hv
    · rcases List.mem_cons.mp h with rfl | h
      · exact ⟨v, List.mem_cons_self, rfl⟩
      · exact ⟨u, List.mem_cons_of_mem _ h, rfl⟩
    · rcases List.mem_cons.mp h with rfl | h
      · exact ⟨u, List.mem_cons_self, rfl⟩
      · obtain ⟨v', hv', he⟩ := ih h
        exact ⟨v', List.mem_cons_of_mem _ hv', he⟩

end Visit

structure Journal where
  /-- How many starts have taken effect. -/
  starts : Nat
  started : Bool
  /-- All calls so far, latest first. -/
  visits : List Visit

namespace Journal

def empty : Journal := ⟨0, false, []⟩

/-- The number of the start that is in effect. -/
def activation (j : Journal) : Option Nat := if j.started then some j.starts else none

/-- A call as it begins. -/
def visit (j : Journal) (t : Thread) (service : ServiceDescriptor) (pipeline : Pipeline)
    (state : Except Envelope InvokeState) (now : Instant) : Visit :=
  ⟨t.number, service, pipeline, state, now, j.activation, none⟩

def note (j : Journal) : Event → Journal
  | .enter t service pipeline state now =>
    { j with visits := j.visit t service pipeline state now :: j.visits }
  | .leave n failed => { j with visits := Visit.finish n failed j.visits }
  | .start _ => if j.started then j else { j with starts := j.starts + 1, started := true }
  | .stop => { j with started := false }
  | .report _ => j

def ofEvents (es : List Event) : Journal := es.foldl note empty

/-- A call counts if it was registered under the start that is in effect. -/
def counts (j : Journal) (v : Visit) : Bool := v.registered && v.activation == j.activation

/-- The unfinished calls of a thread that count, innermost first. -/
def live (j : Journal) (n : Nat) : List Visit := (Visit.unfinished n j.visits).filter j.counts

lemma ofEvents_append_singleton (es : List Event) (e : Event) :
    ofEvents (es ++ [e]) = (ofEvents es).note e := by
  simp [ofEvents]

section

variable {j : Journal} {t : Thread} {service : ServiceDescriptor} {pipeline : Pipeline}
  {state : Except Envelope InvokeState} {now : Instant} {n : Nat} {failed : Bool}

@[simp] lemma counts_note_enter :
    (j.note (.enter t service pipeline state now)).counts = j.counts := rfl

@[simp] lemma visits_note_enter : (j.note (.enter t service pipeline state now)).visits =
    j.visit t service pipeline state now :: j.visits := rfl

@[simp] lemma counts_note_leave : (j.note (.leave n failed)).counts = j.counts := rfl

@[simp] lemma visits_note_leave :
    (j.note (.leave n failed)).visits = Visit.finish n failed j.visits := rfl

@[simp] lemma ended_visit : (j.visit t service pipeline state now).ended = none := rfl

lemma unfinished_visit_same {vs : List Visit} :
    Visit.unfinished t.number (j.visit t service pipeline state now :: vs) =
      j.visit t service pipeline state now :: Visit.unfinished t.number vs :=
  Visit.unfinished_cons_pos ⟨rfl, rfl⟩

lemma unfinished_visit_of_ne {vs : List Visit} (h : n ≠ t.number) :
    Visit.unfinished n (j.visit t service pipeline state now :: vs) = Visit.unfinished n vs :=
  Visit.unfinished_cons_neg fun hc => h hc.1.symm

end

/-- Whether a call counts was settled when it began. -/
@[simp] lemma counts_ended (j : Journal) (v : Visit) (o : Option Bool) :
    j.counts { v with ended := o } = j.counts v := rfl

lemma counts_of_unregistered {j : Journal} {v : Visit} (h : v.registered = false) :
    j.counts v = false := by
  simp [counts, h]

lemma counts_of_stopped {j : Journal} {v : Visit} (h : j.started = false) :
    j.counts v = false := by
  cases ha : v.activation <;> simp [counts, Visit.registered, activation, h, ha]

/-- Where no call counts, none counts that also satisfies `q`. -/
lemma countP_of_none {j : Journal} {vs : List Visit} (h : ∀ v ∈ vs, j.counts v = false)
    (q : Visit → Bool) : (vs.countP fun v => j.counts v && q v) = 0 :=
  List.countP_eq_zero.mpr fun v hv => by simp [h v hv]

end Journal

end CallWatch
