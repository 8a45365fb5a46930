import CallWatch.Chain.Basic
import Mathlib.Tactic.Lemma
import Mathlib.Tactic.Common

/-!
What is installed, told by what has been done.

A journal lists what is done with a chain and its calls, each entry with the processors that were
installed at that moment. A journal that `Tracks` a chain has the right answers, and from one
moment to the next the list changes as its entry says. Then at every moment no processor is
installed twice, and they stand in the order in which each of them was added last.
-/

namespace CallWatch

variable {κ : Type}

namespace Chain

/-- Something that is done. Calls have numbers, in the order in which they begin. -/
inductive Act (κ : Type) where
  | register (k : κ) (added : Bool)
  | unregister (k : κ) (removed : Bool)
  | began (call : Nat)
  | entered (call : Nat) (k : κ)
  | handled (call : Nat)
  | stopped (call : Nat)

/-- An act and what was installed when it was done. -/
structure Moment (κ : Type) where
  installed : List κ
  act : Act κ

section

variable [DecidableEq κ]

/-- What is installed after an act. -/
def Act.after (ks : List κ) : Act κ → List κ
  | .register k true => ks ++ [k]
  | .unregister k true => ks.erase k
  | _ => ks

/-- The answer that was given is right. -/
def Act.Answers (ks : List κ) : Act κ → Prop
  | .register k added => added = true ↔ k ∉ ks
  | .unregister k removed => removed = true ↔ k ∈ ks
  | _ => True

/-- A journal of how one list of installed processors has become another. -/
def Tracks : List κ → List (Moment κ) → List κ → Prop
  | ks, [], ks' => ks = ks'
  | ks, m :: ms, ks' => m.installed = ks ∧ m.act.Answers ks ∧ Tracks (m.act.after ks) ms ks'

variable {ks ks' ks'' : List κ} {ms ms' : List (Moment κ)} {m : Moment κ} {k : κ} {i : Nat}

lemma Tracks.append (h : Tracks ks ms ks') (h' : Tracks ks' ms' ks'') :
    Tracks ks (ms ++ ms') ks'' := by
  induction ms generalizing ks with
  | nil =>
    obtain rfl : ks = ks' := h
    exact h'
  | cons m ms ih => exact ⟨h.1, h.2.1, ih h.2.2⟩

lemma Tracks.split (h : Tracks ks (ms ++ m :: ms') ks') :
    Tracks ks ms m.installed ∧ Tracks m.installed (m :: ms') ks' := by
  induction ms generalizing ks with
  | nil =>
    obtain rfl : m.installed = ks := h.1
    exact ⟨rfl, h⟩
  | cons x ms ih =>
    obtain ⟨hx, hanswers, hrest⟩ := h
    obtain ⟨hms, hm⟩ := ih hrest
    exact ⟨⟨hx, hanswers, hms⟩, hm⟩

/-- The list at the beginning is the one of the first moment, or the last list. -/
lemma Tracks.head? (h : Tracks ks ms ks') : (ms.map Moment.installed ++ [ks']).head? = some ks := by
  cases ms with
  | nil => exact congrArg some (h : ks = ks').symm
  | cons m ms => exact congrArg some h.1

end

/-! ### The order of the installed processors -/

/-- The last time that `k` was added was by act `i`. -/
structure LastAdded (acts : List (Act κ)) (k : κ) (i : Nat) : Prop where
  added : acts[i]? = some (.register k true)
  last : ∀ j, i < j → acts[j]? ≠ some (.register k true)

/-- No processor is there twice, and each one was added later than all before it. -/
structure Ordered (acts : List (Act κ)) (ks : List κ) : Prop where
  nodup : ks.Nodup
  added : ∀ k ∈ ks, ∃ i, LastAdded acts k i
  order : ks.Pairwise fun k l => ∃ i j, LastAdded acts k i ∧ LastAdded acts l j ∧ i < j

variable {acts : List (Act κ)} {a : Act κ} {ks : List κ} {k : κ} {i : Nat}

lemma LastAdded.snoc (h : LastAdded acts k i) (ha : a ≠ .register k true) :
    LastAdded (acts ++ [a]) k i := by
  obtain ⟨hi, -⟩ := List.getElem?_eq_some_iff.mp h.added
  refine ⟨by rw [List.getElem?_append_left hi]; exact h.added, fun j hj hadded => ?_⟩
  by_cases hlt : j < acts.length
  · rw [List.getElem?_append_left hlt] at hadded
    exact h.last j hj hadded
  · rw [List.getElem?_append_right (Nat.not_lt.mp hlt)] at hadded
    have hmem := List.mem_of_getElem? hadded
    exact ha (List.mem_singleton.mp hmem).symm

lemma lastAdded_snoc (acts : List (Act κ)) (k : κ) :
    LastAdded (acts ++ [.register k true]) k acts.length := by
  refine ⟨List.getElem?_concat_length, fun j hj hadded => ?_⟩
  obtain ⟨hlt, -⟩ := List.getElem?_eq_some_iff.mp hadded
  rw [List.length_append, List.length_singleton] at hlt
  omega

lemma LastAdded.lt (h : LastAdded acts k i) : i < acts.length :=
  (List.getElem?_eq_some_iff.mp h.added).1

/-- An act that adds none of the installed processors leaves them in order. -/
lemma Ordered.snoc (h : Ordered acts ks) (ha : ∀ k ∈ ks, a ≠ .register k true) :
    Ordered (acts ++ [a]) ks where
  nodup := h.nodup
  added k hk := by
    obtain ⟨i, hi⟩ := h.added k hk
    exact ⟨i, hi.snoc (ha k hk)⟩
  order := h.order.imp_of_mem fun hk hl => by
    rintro ⟨i, j, hi, hj, hij⟩
    exact ⟨i, j, hi.snoc (ha _ hk), hj.snoc (ha _ hl), hij⟩

lemma Ordered.register (h : Ordered acts ks) (hk : k ∉ ks) :
    Ordered (acts ++ [.register k true]) (ks ++ [k]) := by
  have hks : Ordered (acts ++ [.register k true]) ks :=
    h.snoc fun l hl he => hk (by cases he; exact hl)
  have hlast := lastAdded_snoc acts k
  refine ⟨?_, ?_, ?_⟩
  · refine List.nodup_append.mpr ⟨h.nodup, by simp, fun l hl l' hl' he => ?_⟩
    rw [List.mem_singleton.mp hl'] at he
    exact hk (he ▸ hl)
  · intro l hl
    rcases List.mem_append.mp hl with hl | hl
    · exact hks.added l hl
    · rw [List.mem_singleton.mp hl]
      exact ⟨_, hlast⟩
  · refine List.pairwise_append.mpr ⟨hks.order, List.pairwise_singleton _ _, fun l hl l' hl' => ?_⟩
    rw [List.mem_singleton.mp hl']
    obtain ⟨i, hi⟩ := h.added l hl
    refine ⟨i, acts.length, hi.snoc ?_, hlast, hi.lt⟩
    intro he
    cases he
    exact hk hl

lemma Ordered.unregister [DecidableEq κ] (h : Ordered acts ks) (removed : Bool) :
    Ordered (acts ++ [.unregister k removed]) (ks.erase k) := by
  have hks : Ordered (acts ++ [.unregister k removed]) ks := h.snoc fun _ _ => nofun
  exact ⟨hks.nodup.erase k, fun l hl => hks.added l (List.mem_of_mem_erase hl),
    hks.order.sublist List.erase_sublist⟩

lemma Ordered.step [DecidableEq κ] (h : Ordered acts ks) (ha : a.Answers ks) :
    Ordered (acts ++ [a]) (a.after ks) := by
  cases a with
  | register k added =>
    cases added with
    | true => exact h.register (ha.mp rfl)
    | false => exact h.snoc fun _ _ => nofun
  | unregister k removed =>
    cases removed with
    | true => exact h.unregister true
    | false => exact h.snoc fun _ _ => nofun
  | began _ | entered _ _ | handled _ | stopped _ => exact h.snoc fun _ _ => nofun

lemma Ordered.run [DecidableEq κ] {ms : List (Moment κ)} {ks' : List κ} (h : Ordered acts ks)
    (ht : Tracks ks ms ks') : Ordered (acts ++ ms.map Moment.act) ks' := by
  induction ms generalizing acts ks with
  | nil =>
    obtain rfl : ks = ks' := ht
    simpa using h
  | cons m ms ih =>
    have hrest := ih (h.step ht.2.1) ht.2.2
    simpa using hrest

lemma ordered_nil : Ordered ([] : List (Act κ)) [] :=
  ⟨List.nodup_nil, List.forall_mem_nil _, List.Pairwise.nil⟩

end Chain

end CallWatch
