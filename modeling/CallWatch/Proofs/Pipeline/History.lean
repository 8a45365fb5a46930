import CallWatch.Pipeline
import CallWatch.Proofs.Records
import Mathlib.Data.List.Induction

/-!
A pipeline is what its history says.

What was done to a pipeline is told by single touches, the latest first. Two functions of a history,
which know of no pipeline, say what is there now: the value of a key is the last one that was
written, and a key has arrived with its first insertion since it was absent. The pipeline has just
these entries, in the order of their arrival.

Pipelines are kept in variables, and a copy of a variable has the history that the variable had when
it was copied; what is done later to either of them is no part of the history of the other.
-/

namespace CallWatch

namespace Pipeline

/-! ### Histories -/

/-- An operation on a pipeline. -/
inductive Edit where
  | insert (k : String) (v : Json)
  /-- Like an insertion, but nothing is given back. -/
  | extend (k : String) (v : Json)
  /-- A value that is there is changed where it is. -/
  | write (k : String) (f : Json → Json)
  | remove (k : String)
  /-- A new pipeline from some pairs. -/
  | construct (pairs : List (String × Json))

/-- What an operation gives back, and the pipeline that it leaves. -/
def Edit.perform (p : Pipeline) : Edit → Option Json × Pipeline
  | insert k v => (p.get? k, p.insert k v)
  | extend k v => (none, p.insert k v)
  | write k f => (p.get? k, p.modify k f)
  | remove k => (p.get? k, p.erase k)
  | construct pairs => (none, ofPairs pairs)

/-- The pipeline after some operations. -/
def after (es : List Edit) : Pipeline := es.foldl (fun p e => (e.perform p).2) empty

inductive Touch where
  | put (k : String) (v : Json)
  | change (k : String) (f : Json → Json)
  | drop (k : String)
  | clear

/-- What was done, the latest first. -/
abbrev History := List Touch

def Edit.touches : Edit → History
  | insert k v | extend k v => [.put k v]
  | write k f => [.change k f]
  | remove k => [.drop k]
  | construct pairs => (pairs.map fun p => .put p.1 p.2).reverse ++ [.clear]

def history (es : List Edit) : History := es.foldl (fun past e => e.touches ++ past) []

namespace History

/-- The value of a key: the last one written, if the key was not dropped since. -/
def value (k : String) : History → Option Json
  | [] => none
  | .put j v :: past => if j = k then some v else value k past
  | .change j f :: past => if j = k then (value k past).map f else value k past
  | .drop j :: past => if j = k then none else value k past
  | .clear :: _ => none

/-- When a key arrived: how much was done before its first insertion since it was absent. -/
def arrival (k : String) : History → Option Nat
  | [] => none
  | .put j _ :: past => if j = k then some ((arrival k past).getD past.length) else arrival k past
  | .change _ _ :: past => arrival k past
  | .drop j :: past => if j = k then none else arrival k past
  | .clear :: _ => none

/-- Both keys are there, and one arrived before the other. -/
def Before (past : History) (j k : String) : Prop :=
  ∃ a b, past.arrival j = some a ∧ past.arrival k = some b ∧ a < b

end History

/-- What an operation gives back, as the history says. -/
def Edit.answer (past : History) : Edit → Option Json
  | insert k _ | write k _ | remove k => past.value k
  | extend _ _ | construct _ => none

/-- A pipeline agrees with a history. -/
structure Agrees (p : Pipeline) (past : History) : Prop where
  distinct : p.keys.Nodup
  sees : ∀ k, p.get? k = past.value k
  has : ∀ k v, (k, v) ∈ p.entries ↔ past.value k = some v
  stands : p.keys.Pairwise past.Before
  counts : ∀ ks : List String, ks.Nodup → (∀ k, k ∈ ks ↔ (past.value k).isSome) →
    p.size = ks.length

/-! ### Copies -/

/-- A step in a program with variables for pipelines. -/
inductive Command where
  | edit (x : Nat) (e : Edit)
  /-- Another variable takes a copy of the first one. -/
  | copy (x y : Nat)

/-- The variable that a step writes to. -/
def Command.target : Command → Nat
  | edit x _ => x
  | copy _ y => y

/-- Variables, each with its pipeline. -/
abbrev Desk := Nat → Pipeline

namespace Desk

def step (d : Desk) : Command → Desk
  | .edit x e => Function.update d x (e.perform (d x)).2
  | .copy x y => Function.update d y (d x)

/-- The variables after some steps, from empty pipelines on. -/
def run (cs : List Command) : Desk := cs.foldl step fun _ => empty

/-- What was done to the pipeline of a variable, before or after it was copied there. The steps are
told from the last one on. -/
def lineage : List Command → Nat → List Edit
  | [], _ => []
  | .edit y e :: past, x => if y = x then lineage past x ++ [e] else lineage past x
  | .copy y z :: past, x => lineage past (if z = x then y else x)

end Desk

/-- The history of a variable after some steps. -/
def Desk.past (cs : List Command) (x : Nat) : History := history (lineage cs.reverse x)

/-- A variable has an insertion-ordered map, and has it for itself. -/
structure Desk.InsertionOrdered (cs : List Command) (x : Nat) : Prop where
  agrees : (run cs x).Agrees (past cs x)
  answers : ∀ e : Edit, (e.perform (run cs x)).1 = e.answer (past cs x)
  /-- Who agrees with the history is this pipeline. -/
  only : ∀ p : Pipeline, p.Agrees (past cs x) → p = run cs x
  /-- A key that is there is not moved. -/
  unmoved : ∀ k v, k ∈ (run cs x).keys → ((run cs x).insert k v).keys = (run cs x).keys
  /-- What stays after a removal keeps its order. -/
  closed : ∀ k, ((run cs x).erase k).entries = (run cs x).entries.filter fun e => e.1 ≠ k
  /-- A copy is as the variable was when it was copied, whatever is done later to other variables. -/
  copied : ∀ y later, (∀ c ∈ later, c.target ≠ y) → run (cs ++ .copy x y :: later) y = run cs x

/-! ### Touches -/

/-- What a single touch makes of a pipeline. -/
def Touch.apply : Touch → Pipeline → Pipeline
  | put k v, p => p.insert k v
  | change k f, p => p.modify k f
  | drop k, p => p.erase k
  | clear, _ => empty

/-- The pipeline of a history. -/
def ofHistory (past : History) : Pipeline := past.foldr Touch.apply empty

lemma entries_foldl_insert (pairs : List (String × Json)) (p : Pipeline) :
    (pairs.foldl (fun q e => q.insert e.1 e.2) p).entries =
      pairs.foldl (fun r e => r.insert e.1 e.2) p.entries := by
  induction pairs generalizing p with
  | nil => rfl
  | cons e pairs ih => exact ih _

lemma ofPairs_eq_ofHistory (pairs : List (String × Json)) (past : History) :
    ofPairs pairs = ofHistory ((Edit.construct pairs).touches ++ past) := by
  refine ext_entries ?_
  rw [ofHistory, Edit.touches, List.append_assoc, List.foldr_append, List.foldr_reverse,
    List.foldl_map]
  exact (entries_foldl_insert pairs empty).symm

lemma perform_ofHistory (past : History) (e : Edit) :
    (e.perform (ofHistory past)).2 = ofHistory (e.touches ++ past) := by
  cases e with
  | construct pairs => exact ofPairs_eq_ofHistory pairs past
  | _ => rfl

lemma history_concat (es : List Edit) (e : Edit) :
    history (es ++ [e]) = e.touches ++ history es := by
  rw [history, List.foldl_append]
  rfl

lemma after_concat (es : List Edit) (e : Edit) : after (es ++ [e]) = (e.perform (after es)).2 := by
  rw [after, List.foldl_append]
  rfl

/-- The pipeline after some operations is that of their history. -/
lemma after_eq (es : List Edit) : after es = ofHistory (history es) := by
  induction es using List.reverseRecOn with
  | nil => rfl
  | append_singleton es e ih => rw [after_concat, ih, perform_ofHistory, history_concat]

/-! ### Arrival -/

namespace History

variable {past : History} {j k : String} {a : Nat}

lemma isSome_arrival_iff : (past.arrival k).isSome ↔ (past.value k).isSome := by
  induction past with
  | nil => rfl
  | cons t past ih =>
    cases t with
    | put j v => rw [arrival, value]; split <;> simp [ih]
    | change j f => rw [arrival, value, ih]; split <;> simp
    | drop j => rw [arrival, value]; split <;> simp [ih]
    | clear => rfl

lemma arrival_lt (h : arrival k past = some a) : a < past.length := by
  induction past generalizing a with
  | nil => exact absurd h nofun
  | cons t past ih =>
    refine Nat.lt_succ_of_le ?_
    cases t with
    | put j v =>
      rw [arrival] at h
      split at h
      · cases harrival : arrival k past with
        | none =>
          rw [harrival] at h
          exact Nat.le_of_eq (Option.some.inj h).symm
        | some b =>
          rw [harrival] at h
          obtain rfl := Option.some.inj h
          exact Nat.le_of_lt (ih harrival)
      · exact Nat.le_of_lt (ih h)
    | change j f => exact Nat.le_of_lt (ih h)
    | drop j =>
      rw [arrival] at h
      split at h
      · exact absurd h nofun
      · exact Nat.le_of_lt (ih h)
    | clear => exact absurd h nofun

/-- Keys that keep their arrival stand to each other as before. -/
lemma Before.congr {past' : History} (h : past.Before j k)
    (hj : past'.arrival j = past.arrival j) (hk : past'.arrival k = past.arrival k) :
    past'.Before j k := by
  obtain ⟨a, b, ha, hb, hab⟩ := h
  exact ⟨a, b, hj.trans ha, hk.trans hb, hab⟩

end History

/-! ### Agreement -/

/-- What a touch preserves. -/
structure Follows (p : Pipeline) (past : History) : Prop where
  sees : ∀ k, p.get? k = past.value k
  stands : p.keys.Pairwise past.Before

variable {p q : Pipeline} {past : History} {k : String}

lemma Follows.exists_arrival (h : p.Follows past) (hk : k ∈ p.keys) :
    ∃ a, past.arrival k = some a := by
  rw [← Option.isSome_iff_exists, History.isSome_arrival_iff, ← h.sees]
  exact Record.isSome_get?_iff.mpr hk

lemma Follows.arrival_eq_none (h : p.Follows past) (hk : k ∉ p.keys) : past.arrival k = none := by
  rw [← Option.not_isSome_iff_eq_none, History.isSome_arrival_iff, ← h.sees]
  exact fun hsome => hk (Record.isSome_get?_iff.mp hsome)

/-- Keys that keep their arrival keep their order. -/
lemma Follows.pairwise_congr (h : p.Follows past) {past' : History}
    (harrival : ∀ k ∈ p.keys, past'.arrival k = past.arrival k) : p.keys.Pairwise past'.Before :=
  h.stands.imp_of_mem fun hj hk hbefore => hbefore.congr (harrival _ hj) (harrival _ hk)

lemma Follows.put (h : p.Follows past) (k : String) (v : Json) :
    (p.insert k v).Follows (.put k v :: past) where
  sees := by
    intro j
    have hget := Record.get?_insert p.entries k j v
    rw [show (p.insert k v).get? j = _ from hget, History.value, ← h.sees]
    by_cases hj : j = k
    · rw [if_pos hj, if_pos hj.symm]
    · rw [if_neg hj, if_neg (Ne.symm hj)]
      rfl
  stands := by
    by_cases hk : k ∈ p.keys
    · have hkeys : (p.insert k v).keys = p.keys := Record.keys_insert_of_mem hk
      rw [hkeys]
      refine h.pairwise_congr fun j hj => ?_
      obtain ⟨a, ha⟩ := h.exists_arrival hj
      rw [History.arrival]
      split
      · rw [ha]
        rfl
      · rfl
    · have hkeys : (p.insert k v).keys = p.keys ++ [k] := Record.keys_insert_of_not_mem hk
      have hkept {j : String} (hj : j ∈ p.keys) :
          History.arrival j (.put k v :: past) = past.arrival j := by
        rw [History.arrival, if_neg]
        rintro rfl
        exact hk hj
      rw [hkeys, List.pairwise_append]
      refine ⟨h.pairwise_congr fun j => hkept, List.pairwise_singleton _ _, ?_⟩
      rintro j hj _ hk'
      obtain rfl := List.mem_singleton.mp hk'
      obtain ⟨a, ha⟩ := h.exists_arrival hj
      refine ⟨a, past.length, (hkept hj).trans ha, ?_, History.arrival_lt ha⟩
      rw [History.arrival, if_pos rfl, h.arrival_eq_none hk]
      rfl

lemma Follows.change (h : p.Follows past) (k : String) (f : Json → Json) :
    (p.modify k f).Follows (.change k f :: past) where
  sees := by
    intro j
    rw [modify, History.value, ← h.sees]
    split
    · rename_i v hv
      have hget := Record.get?_insert p.entries k j (f v)
      rw [show (p.insert k (f v)).get? j = _ from hget]
      by_cases hj : j = k
      · rw [if_pos hj, if_pos hj.symm, hj, hv]
        rfl
      · rw [if_neg hj, if_neg (Ne.symm hj)]
        rfl
    · rename_i hnone
      split
      · rename_i hk
        rw [← hk, hnone]
        rfl
      · rfl
  stands := by
    have hkeys : (p.modify k f).keys = p.keys := by
      rw [modify]
      split
      · rename_i v hv
        exact Record.keys_insert_of_mem (Record.isSome_get?_iff.mp (Option.isSome_of_eq_some hv))
      · rfl
    rw [hkeys]
    exact h.pairwise_congr fun _ _ => rfl

lemma Follows.drop (h : p.Follows past) (k : String) : (p.erase k).Follows (.drop k :: past) where
  sees := by
    intro j
    have hget := Record.get?_erase (k := k) p.nodup j
    rw [show (p.erase k).get? j = _ from hget, History.value, ← h.sees]
    by_cases hj : j = k
    · rw [if_pos hj, if_pos hj.symm]
    · rw [if_neg hj, if_neg (Ne.symm hj)]
      rfl
  stands := by
    have hkeys : (p.erase k).keys = p.keys.filter fun j => j ≠ k := Record.keys_erase p.nodup
    rw [hkeys]
    refine (h.stands.filter _).imp_of_mem fun {i j} hi hj hbefore => ?_
    have hne {j : String} (hj : j ∈ p.keys.filter fun j => j ≠ k) :
        History.arrival j (.drop k :: past) = past.arrival j := by
      rw [History.arrival, if_neg]
      rintro rfl
      simp at hj
    exact hbefore.congr (hne hi) (hne hj)

lemma follows_ofHistory (past : History) : (ofHistory past).Follows past := by
  induction past with
  | nil => exact ⟨fun _ => rfl, List.Pairwise.nil⟩
  | cons t past ih =>
    cases t with
    | put k v => exact ih.put k v
    | change k f => exact ih.change k f
    | drop k => exact ih.drop k
    | clear => exact ⟨fun _ => rfl, List.Pairwise.nil⟩

lemma Follows.agrees (h : p.Follows past) : p.Agrees past where
  distinct := p.nodup
  sees := h.sees
  has k v := by rw [Record.mem_iff p.nodup, ← h.sees]; rfl
  stands := h.stands
  counts := by
    intro ks hnodup hks
    have hperm : p.keys.Perm ks := by
      refine (List.perm_ext_iff_of_nodup p.nodup hnodup).mpr fun k => ?_
      rw [hks, ← h.sees]
      exact Record.isSome_get?_iff.symm
    rw [← hperm.length_eq]
    exact (List.length_map _).symm

lemma History.Before.asymm {j : String} (h : past.Before j k) : ¬past.Before k j := by
  obtain ⟨a, b, ha, hb, hab⟩ := h
  rintro ⟨b', a', hb', ha', hba⟩
  obtain rfl := Option.some.inj (ha.symm.trans ha')
  obtain rfl := Option.some.inj (hb.symm.trans hb')
  exact Nat.lt_asymm hab hba

/-- A history leaves no choice. -/
lemma Agrees.eq (hp : p.Agrees past) (hq : q.Agrees past) : p = q := by
  have hnodup {p : Pipeline} : p.entries.Nodup :=
    List.Pairwise.of_map Prod.fst (fun _ _ hne => ne_of_apply_ne _ hne) p.nodup
  have hperm : p.entries.Perm q.entries :=
    (List.perm_ext_iff_of_nodup hnodup hnodup).mpr fun e => by rw [hp.has, hq.has]
  have hstands {p : Pipeline} (h : p.Agrees past) :
      p.entries.Pairwise fun e e' => past.Before e.1 e'.1 := List.pairwise_map.mp h.stands
  refine ext_entries (hperm.eq_of_pairwise ?_ (hstands hp) (hstands hq))
  exact fun e e' _ _ h h' => absurd h' h.asymm

lemma agrees_after (es : List Edit) : (after es).Agrees (history es) := by
  rw [after_eq]
  exact (follows_ofHistory _).agrees

lemma Agrees.answers (h : p.Agrees past) (e : Edit) : (e.perform p).1 = e.answer past := by
  cases e with
  | insert k _ | write k _ | remove k => exact h.sees k
  | extend _ _ | construct _ => rfl

/-! ### Variables -/

namespace Desk

variable {d : Desk} {cs : List Command}

lemma step_of_ne {c : Command} {x : Nat} (h : c.target ≠ x) : d.step c x = d x := by
  cases c with
  | edit y e => exact Function.update_of_ne (Ne.symm h) _ _
  | copy y z => exact Function.update_of_ne (Ne.symm h) _ _

/-- A variable that no step writes to is as it was. -/
lemma foldl_step_of_ne {x : Nat} (h : ∀ c ∈ cs, c.target ≠ x) : cs.foldl step d x = d x := by
  induction cs generalizing d with
  | nil => rfl
  | cons c cs ih =>
    rw [List.foldl_cons, ih fun c' hc' => h c' (List.mem_cons_of_mem _ hc')]
    exact step_of_ne (h c List.mem_cons_self)

lemma run_concat (cs : List Command) (c : Command) : run (cs ++ [c]) = (run cs).step c := by
  rw [run, List.foldl_append]
  rfl

lemma run_copy {x y : Nat} {later : List Command} (h : ∀ c ∈ later, c.target ≠ y) :
    run (cs ++ .copy x y :: later) y = run cs x := by
  rw [run, List.foldl_append, List.foldl_cons, foldl_step_of_ne h]
  exact Function.update_self _ _ _

/-- A variable has the pipeline of the operations in its lineage. -/
lemma run_eq_after (cs : List Command) (x : Nat) : run cs x = after (lineage cs.reverse x) := by
  induction cs using List.reverseRecOn generalizing x with
  | nil => rfl
  | append_singleton cs c ih =>
    rw [run_concat, List.reverse_append]
    cases c with
    | edit y e =>
      change _ = after (if y = x then lineage cs.reverse x ++ [e] else lineage cs.reverse x)
      split
      · rename_i hy
        subst hy
        rw [after_concat, ← ih]
        exact Function.update_self _ _ _
      · rename_i hne
        rw [← ih]
        exact step_of_ne hne
    | copy y z =>
      change _ = after (lineage cs.reverse (if z = x then y else x))
      rw [← ih]
      split
      · rename_i hz
        subst hz
        exact Function.update_self _ _ _
      · rename_i hne
        exact step_of_ne hne

/-- **A pipeline is an insertion-ordered map.** Whatever is done to pipelines in variables, each
agrees with its own history and with no other one, and gives back what the history says. -/
theorem insertionOrdered (cs : List Command) (x : Nat) : InsertionOrdered cs x where
  agrees := by
    rw [run_eq_after]
    exact agrees_after _
  answers := by
    rw [run_eq_after]
    exact (agrees_after _).answers
  only p hp := by
    rw [run_eq_after]
    exact hp.eq (agrees_after _)
  unmoved _ _ hk := Record.keys_insert_of_mem hk
  closed _ := Record.erase_eq_filter (nodup _)
  copied _ _ hlater := run_copy hlater

/-- A key that comes back comes last; the copy still has it in its first place. -/
example :
    let d := run [.edit 0 (.construct [("a", .null), ("b", .null), ("a", .bool true)]), .copy 0 1,
      .edit 0 (.remove "a"), .edit 0 (.insert "a" .null)]
    (d 0).keys = ["b", "a"] ∧ (d 1).keys = ["a", "b"] := by decide

end Desk

end Pipeline

end CallWatch
