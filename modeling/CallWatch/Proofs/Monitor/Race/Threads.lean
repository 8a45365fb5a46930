import CallWatch.Proofs.Monitor.Exactness
import CallWatch.Proofs.Monitor.Race.Steps

/-!
One thread in a race: what its tickets, its calls and its frames have to do with each other at
every step.

In epoch `e` a thread's frames are those of its calls that are registered in `e`. In between a
thread can be ahead or behind: a frame is there that no call has yet, or has no more, and a
frame of an epoch that is over waits to be taken out by the thread that pushed it. While the
registry is being cleared nothing is known of the entries that have not had their turn.
-/

namespace CallWatch

open Registry

section

variable {n e : Nat} {ks : List (Option Ticket)} {vs : List Visit} {fs : List Frame}

lemma matched_past (h : List.Forall₂ (Issued n) ks vs) (hk : ∀ k, some k ∈ ks → k.epoch < e) :
    Matched n e ks vs [] := by
  induction h with
  | nil => exact .nil
  | cons hkv _ ih =>
    exact .past hkv (fun t ht => hk t (ht ▸ List.mem_cons_self))
      (ih fun t ht => hk t (List.mem_cons_of_mem _ ht))

lemma Matched.eq_nil (h : Matched n e ks vs fs) (hk : ∀ k, some k ∈ ks → k.epoch < e) :
    fs = [] := by
  induction h with
  | nil => rfl
  | past _ _ _ ih => exact ih fun t ht => hk t (List.mem_cons_of_mem _ ht)
  | live _ he _ _ _ => exact absurd (hk _ List.mem_cons_self) (by omega)

lemma Matched.of_past {k : Option Ticket} {v : Visit} (h : Matched n e (k :: ks) (v :: vs) fs)
    (hk : ∀ t, k = some t → t.epoch ≠ e) : Matched n e ks vs fs := by
  cases h with
  | past _ _ h => exact h
  | live _ he _ _ _ => exact absurd he (hk _ rfl)

end

namespace Race

/-! ### Epochs -/

/-- Epochs do not rise from inner calls to outer ones, and are at most `e`. -/
inductive Falling : Nat → List (Option Ticket) → Prop
  | nil {e : Nat} : Falling e []
  | passed {e : Nat} {ks : List (Option Ticket)} (h : Falling e ks) : Falling e (none :: ks)
  | held {e : Nat} {k : Ticket} {ks : List (Option Ticket)} (hk : k.epoch ≤ e)
      (h : Falling k.epoch ks) : Falling e (some k :: ks)

lemma Falling.mono {e e' : Nat} {ks : List (Option Ticket)} (h : Falling e ks) (he : e ≤ e') :
    Falling e' ks := by
  induction h with
  | nil => exact .nil
  | passed _ ih => exact .passed (ih he)
  | held hk h _ => exact .held (Nat.le_trans hk he) h

lemma Falling.tail {e : Nat} {ks : List (Option Ticket)} (h : Falling e ks) :
    Falling e ks.tail := by
  cases h with
  | nil => exact .nil
  | passed h => exact h
  | held hk h => exact h.mono hk

lemma Falling.le {e : Nat} {ks : List (Option Ticket)} (h : Falling e ks) :
    ∀ k, some k ∈ ks → k.epoch ≤ e := by
  induction h with
  | nil => simp
  | passed _ ih => exact fun t ht => ih t (by simpa using ht)
  | held hk _ ih =>
    intro t ht
    rcases List.mem_cons.mp ht with ht | ht
    · exact Option.some.inj ht ▸ hk
    · exact Nat.le_trans (ih t ht) hk

lemma activation_eq_some {e a : Nat} : activation e = some a ↔ e + 1 = 2 * a := by
  unfold activation
  split_ifs with h
  · simp only [Option.some.injEq]
    omega
  · simp only [false_iff]
    omega

lemma issued_of_odd {n : Nat} {a : Arrival} {k : Ticket} (hs : a.state.isOk = true)
    (hk : k.thread = n) (he : k.epoch % 2 = 1) :
    Issued n (some k) (a.visit (activation k.epoch)) := by
  have ha : activation k.epoch = some ((k.epoch + 1) / 2) := if_pos he
  exact .registered (by simp [Visit.registered, Arrival.visit, ha, hs]) ha (by omega) hk

/-! ### A thread at a step -/

/-- What a registration that comes too late may have left: its own frame and nothing else. -/
def Remnant (k : Ticket) (fs : List Frame) : Prop := fs = [] ∨ ∃ f, fs = [f] ∧ f.serial = k.serial

/-- What a thread has to do next fits its tickets. Calls have been registered in `live`
epochs. -/
def Phase.Fits (n e : Nat) (live : Nat → Prop) (ks : List (Option Ticket)) : Phase → Prop
  | .idle => Falling e ks
  | .check a epoch => a.thread.number = n ∧ epoch ≤ e ∧ Falling epoch ks
  | .push a st epoch => a.thread.number = n ∧ a.state = .ok st ∧ live epoch ∧ Falling epoch ks
  | .compare a k => a.thread.number = n ∧ a.state.isOk = true ∧ k.thread = n ∧ live k.epoch ∧
      Falling k.epoch ks
  | .undo a k => a.thread.number = n ∧ k.thread = n ∧ k.epoch < e ∧ Falling k.epoch ks
  | .count a k => a.thread.number = n ∧ live k.epoch ∧ Falling k.epoch ks ∧
      Issued n (some k) (a.visit (activation k.epoch))
  | .pop k _ => k.thread = n ∧ Falling e ks ∧ ∃ rest, ks = some k :: rest
  | .fail k => k.thread = n ∧ Falling e ks ∧ ∃ rest, ks = some k :: rest

/-- The frames of a thread are those of its calls in epoch `e`, up to the call that it is
about. -/
def Phase.Shows (n e : Nat) (ks : List (Option Ticket)) (vs : List Visit) (fs : List Frame) :
    Phase → Prop
  | .compare a k =>
    (k.epoch = e → Matched n e (some k :: ks) (a.visit (activation k.epoch) :: vs) fs) ∧
      (k.epoch < e → Remnant k fs)
  | .undo _ k => Remnant k fs
  | .count a k => Matched n e (some k :: ks) (a.visit (activation k.epoch) :: vs) fs
  | .fail _ => Matched n e ks.tail vs.tail fs
  | _ => Matched n e ks vs fs

structure Fits (n e : Nat) (live : Nat → Prop) (settled : Prop) (p : Phase)
    (ks : List (Option Ticket)) (vs : List Visit) (fs : List Frame) : Prop where
  issued : List.Forall₂ (Issued n) ks vs
  tickets : ∀ k, some k ∈ ks → live k.epoch
  phase : p.Fits n e live ks
  frames : settled → p.Shows n e ks vs fs

namespace Fits

variable {n e : Nat} {live live' : Nat → Prop} {settled settled' : Prop} {p : Phase}
  {ks : List (Option Ticket)} {vs : List Visit} {fs : List Frame} {a : Arrival} {k : Ticket}
  {st : InvokeState} {epoch : Nat} {failed : Bool}

lemma init : Fits n 0 live settled .idle [] [] [] :=
  ⟨.nil, by simp, .nil, fun _ => .nil⟩

/-! ### Registering -/

lemma arrive (h : Fits n e live settled .idle ks vs fs) (ha : a.thread.number = n) :
    Fits n e live settled (.check a e) ks vs fs :=
  ⟨h.issued, h.tickets, ⟨ha, Nat.le_refl e, h.phase⟩, h.frames⟩

lemma check (h : Fits n e live settled (.check a epoch) ks vs fs) (hs : a.state = .ok st)
    (hl : live epoch) : Fits n e live settled (.push a st epoch) ks vs fs :=
  ⟨h.issued, h.tickets, ⟨h.phase.1, hs, hl, h.phase.2.2⟩, h.frames⟩

/-- A call that is not registered goes on without a ticket. -/
lemma pass (h : Fits n e live settled (.check a epoch) ks vs fs) {v : Visit}
    (hv : v.registered = false) : Fits n e live settled .idle (none :: ks) (v :: vs) fs := by
  obtain ⟨-, hle, hfall⟩ := h.phase
  exact ⟨.cons (.unregistered hv) h.issued, fun k hk => h.tickets k (by simpa using hk),
    .passed (hfall.mono hle), fun hs => .past (.unregistered hv) (by simp) (h.frames hs)⟩

lemma push (h : Fits n e live settled (.push a st epoch) ks vs fs)
    (hodd : live e → e % 2 = 1) (serial : Nat) :
    Fits n e live settled (.compare a ⟨n, epoch, serial⟩) ks vs (a.frame st serial :: fs) := by
  obtain ⟨ha, hs, hl, hfall⟩ := h.phase
  have hok : a.state.isOk = true := by simp [hs, Except.isOk, Except.toBool]
  refine ⟨h.issued, h.tickets, ⟨ha, hok, rfl, hl, hfall⟩, fun hset => ⟨fun he => ?_, fun he => ?_⟩⟩
  · simp only at he
    subst he
    exact .live (issued_of_odd hok rfl (hodd hl)) rfl rfl ⟨rfl, rfl, hs.symm, rfl⟩ (h.frames hset)
  · -- all calls of the thread are of epochs that are over, so it has no other frames
    have hnil := (h.frames hset).eq_nil fun t ht => Nat.lt_of_le_of_lt (hfall.le t ht) he
    exact Or.inr ⟨_, by rw [hnil], rfl⟩

lemma compare_eq (h : Fits n e live settled (.compare a k) ks vs fs)
    (hodd : live e → e % 2 = 1) (he : k.epoch = e) :
    Fits n e live settled (.count a k) ks vs fs := by
  obtain ⟨ha, hok, hk, hl, hfall⟩ := h.phase
  have hi := issued_of_odd hok hk (he ▸ hodd (he ▸ hl))
  exact ⟨h.issued, h.tickets, ⟨ha, hl, hfall, hi⟩, fun hset => (h.frames hset).1 he⟩

lemma compare_lt (h : Fits n e live settled (.compare a k) ks vs fs) (he : k.epoch < e) :
    Fits n e live settled (.undo a k) ks vs fs := by
  obtain ⟨ha, -, hk, -, hfall⟩ := h.phase
  exact ⟨h.issued, h.tickets, ⟨ha, hk, he, hfall⟩, fun hset => (h.frames hset).2 he⟩

lemma undo (h : Fits n e live settled (.undo a k) ks vs fs) :
    Fits n e live settled .idle (none :: ks) (a.visit none :: vs)
      (fs.eraseP (·.serial == k.serial)) := by
  obtain ⟨-, -, he, hfall⟩ := h.phase
  have hv : Issued n none (a.visit none) := .unregistered rfl
  have hpast : ∀ t, some t ∈ ks → t.epoch < e := fun t ht =>
    Nat.lt_of_le_of_lt (hfall.le t ht) he
  refine ⟨.cons hv h.issued, fun t ht => h.tickets t (by simpa using ht),
    .passed (hfall.mono (Nat.le_of_lt he)), fun hset => ?_⟩
  have hnil : fs.eraseP (·.serial == k.serial) = [] := by
    rcases h.frames hset with rfl | ⟨f, rfl, hf⟩
    · rfl
    · simp [hf]
  rw [hnil]
  exact .past hv (by simp) (matched_past h.issued hpast)

lemma count (h : Fits n e live settled (.count a k) ks vs fs) (hle : live k.epoch → k.epoch ≤ e) :
    Fits n e live settled .idle (some k :: ks) (a.visit (activation k.epoch) :: vs) fs := by
  obtain ⟨-, hl, hfall, hi⟩ := h.phase
  refine ⟨.cons hi h.issued, fun t ht => ?_, .held (hle hl) hfall, h.frames⟩
  rcases List.mem_cons.mp ht with ht | ht
  · exact Option.some.inj ht ▸ hl
  · exact h.tickets t ht

/-! ### Completing -/

lemma leave_current (h : Fits n e live settled .idle (some k :: ks) vs fs) (failed : Bool) :
    Fits n e live settled (.pop k failed) (some k :: ks) vs fs := by
  refine ⟨h.issued, h.tickets, ⟨?_, h.phase, ks, rfl⟩, h.frames⟩
  cases h.issued with
  | cons hi _ => cases hi; assumption

/-- A call ends that has no ticket, or one of an epoch that is over. -/
lemma leave_past {k : Option Ticket} (h : Fits n e live settled .idle (k :: ks) vs fs)
    (hk : ∀ t, k = some t → t.epoch ≠ e) : Fits n e live settled .idle ks vs.tail fs := by
  rcases vs with _ | ⟨v, vs⟩
  · cases h.issued
  refine ⟨(List.forall₂_cons.mp h.issued).2, fun t ht => h.tickets t (List.mem_cons_of_mem _ ht),
    h.phase.tail, fun hset => ?_⟩
  exact Matched.of_past (h.frames hset) hk

lemma pop (h : Fits n e live settled (.pop k failed) ks vs fs) :
    Fits n e live settled (.fail k) ks vs (fs.eraseP (·.serial == k.serial)) := by
  obtain ⟨hn, hfall, rest, rfl⟩ := h.phase
  refine ⟨h.issued, h.tickets, h.phase, fun hset => ?_⟩
  rcases vs with _ | ⟨v, vs⟩
  · cases h.issued
  have hm : Matched n e (some k :: rest) (v :: vs) fs := h.frames hset
  cases hm with
  | past _ hlt hm =>
    have hnil := hm.eq_nil fun t ht => by
      have := hlt k rfl
      cases hfall with
      | held _ hrest => exact Nat.lt_of_le_of_lt (hrest.le t ht) this
    subst hnil
    exact hm
  | live _ _ hs _ hm =>
    rw [List.eraseP_cons_of_pos (by simp [hs])]
    exact hm

lemma fail (h : Fits n e live settled (.fail k) ks vs fs) :
    Fits n e live settled .idle ks.tail vs.tail fs := by
  obtain ⟨hn, hfall, rest, rfl⟩ := h.phase
  rcases vs with _ | ⟨v, vs⟩
  · cases h.issued
  exact ⟨(List.forall₂_cons.mp h.issued).2, fun t ht => h.tickets t (List.mem_cons_of_mem _ ht),
    hfall.tail, h.frames⟩

/-! ### Starts and stops -/

/-- More epochs may be live, and less may be known of the frames. -/
lemma mono (h : Fits n e live settled p ks vs fs) (hl : ∀ e, live e → live' e)
    (hset : settled' → settled) : Fits n e live' settled' p ks vs fs := by
  refine ⟨h.issued, fun k hk => hl _ (h.tickets k hk), ?_, fun hs => h.frames (hset hs)⟩
  have hp := h.phase
  cases p with
  | push a st epoch => exact ⟨hp.1, hp.2.1, hl _ hp.2.2.1, hp.2.2.2⟩
  | compare a k => exact ⟨hp.1, hp.2.1, hp.2.2.1, hl _ hp.2.2.2.1, hp.2.2.2.2⟩
  | count a k => exact ⟨hp.1, hl _ hp.2.1, hp.2.2⟩
  | _ => exact hp

/-- A new epoch, in which nothing is known of the frames yet. -/
lemma swap (h : Fits n e live settled p ks vs fs) (hl : ∀ e, live e → live' e) :
    Fits n (e + 1) live' False p ks vs fs := by
  have hm := h.mono hl id
  refine ⟨h.issued, hm.tickets, ?_, False.elim⟩
  have hp := hm.phase
  cases p with
  | idle => exact hp.mono (Nat.le_succ e)
  | check a epoch => exact ⟨hp.1, Nat.le_succ_of_le hp.2.1, hp.2.2⟩
  | undo a k => exact ⟨hp.1, hp.2.1, Nat.lt_succ_of_lt hp.2.2.1, hp.2.2.2⟩
  | pop k failed => exact ⟨hp.1, hp.2.1.mono (Nat.le_succ e), hp.2.2⟩
  | fail k => exact ⟨hp.1, hp.2.1.mono (Nat.le_succ e), hp.2.2⟩
  | _ => exact hp

/-- A thread has no frames while no call is registered in the epoch. -/
lemma clear (h : Fits n e live settled p ks vs fs) (hl : ∀ e', live e' → e' < e) :
    Fits n e live settled' p ks vs [] := by
  refine ⟨h.issued, h.tickets, h.phase, fun _ => ?_⟩
  have hpast : ∀ k, some k ∈ ks → k.epoch < e := fun k hk => hl _ (h.tickets k hk)
  have hm := matched_past h.issued hpast
  have hp := h.phase
  cases p with
  | compare a k =>
    have hlt := hl _ hp.2.2.2.1
    exact ⟨fun he => absurd he (Nat.ne_of_lt hlt), fun _ => Or.inl rfl⟩
  | undo a k => exact Or.inl rfl
  | count a k =>
    obtain ⟨-, hlk, -, hi⟩ := hp
    exact .past hi (fun t ht => Option.some.inj ht ▸ hl _ hlk) hm
  | fail k =>
    obtain ⟨-, -, rest, rfl⟩ := hp
    rcases vs with _ | ⟨v, vs⟩
    · cases h.issued
    exact matched_past (List.forall₂_cons.mp h.issued).2
      fun t ht => hpast t (List.mem_cons_of_mem _ ht)
  | _ => exact hm

end Fits

end Race

end CallWatch
