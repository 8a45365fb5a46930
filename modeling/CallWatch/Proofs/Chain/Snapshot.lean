import CallWatch.Demo
import CallWatch.Proofs.Chain.Registration

/-!
A call goes through the processors that are installed when it begins.

Processors and handlers are given as `Code`, which may do anything that can be done with a chain:
install and take out processors, and make calls through the chain whose processors and handlers
do the same, and so on, at any point on the way in and on the way out. All of it is written into
the journal of one `Desk`. `Leads` says what code of any kind leaves there: a journal that tracks
the chain, in which every call that began has gone down the list of that moment.
-/

namespace CallWatch.Chain

variable {κ η σ ε τ : Type}

/-! ### What becomes of a call -/

/-- What happens to a call on its way down the list. -/
inductive Stage (κ : Type) where
  | entered (k : κ)
  | handled
  | stopped

/-- The call that an act belongs to. -/
def Act.call? : Act κ → Option Nat
  | .began id | .entered id _ | .handled id | .stopped id => some id
  | _ => none

def Act.stage? (id : Nat) : Act κ → Option (Stage κ)
  | .entered id' k => if id' = id then some (.entered k) else none
  | .handled id' => if id' = id then some .handled else none
  | .stopped id' => if id' = id then some .stopped else none
  | _ => none

/-- What a journal tells of a call. -/
def trail (id : Nat) (ms : List (Moment κ)) : List (Stage κ) :=
  ms.filterMap fun m => m.act.stage? id

/-- A call goes through processors: it enters each of them in turn, until it has entered them all
and comes to the handler, or one of them stops it. -/
def Through (ks : List κ) (t : List (Stage κ)) : Prop :=
  t = ks.map .entered ++ [.handled] ∨
    ∃ n < ks.length, t = (ks.take (n + 1)).map .entered ++ [.stopped]

lemma trail_append (id : Nat) (ms ms' : List (Moment κ)) :
    trail id (ms ++ ms') = trail id ms ++ trail id ms' := List.filterMap_append

lemma Act.call?_of_stage? {id : Nat} {a : Act κ} {x : Stage κ} (h : a.stage? id = some x) :
    a.call? = some id := by
  cases a <;> simp_all [Act.stage?, Act.call?]

lemma trail_singleton {id : Nat} {m : Moment κ} {x : Stage κ} (h : m.act.stage? id = some x) :
    trail id [m] = [x] := by
  simp [trail, h]

lemma trail_eq_nil {id : Nat} {ms : List (Moment κ)} (h : ∀ m ∈ ms, m.act.call? ≠ some id) :
    trail id ms = [] := by
  refine List.filterMap_eq_nil_iff.mpr fun m hm => ?_
  cases hs : m.act.stage? id with
  | none => rfl
  | some x => exact absurd (Act.call?_of_stage? hs) (h m hm)

lemma Through.cons {k : κ} {ks : List κ} {t : List (Stage κ)} (h : Through ks t) :
    Through (k :: ks) (.entered k :: t) := by
  rcases h with rfl | ⟨n, hn, rfl⟩
  · exact .inl rfl
  · exact .inr ⟨n + 1, Nat.succ_lt_succ hn, rfl⟩

lemma Through.stop (k : κ) (ks : List κ) : Through (k :: ks) [.entered k, .stopped] :=
  .inr ⟨0, Nat.succ_pos _, rfl⟩

/-! ### Code that uses the chain -/

/-- What runs and ends with a `τ`: each step but the last goes on as its answer says. -/
inductive Code (κ η σ ε τ : Type) where
  | done (t : τ)
  /-- Looks at the size of the chain and at the call. -/
  | look (next : Nat → Call σ → Code κ η σ ε τ)
  | change (c : Call σ) (next : Code κ η σ ε τ)
  | register (k : κ) (next : Bool → Code κ η σ ε τ)
  | unregister (k : κ) (next : Bool → Code κ η σ ε τ)
  /-- A call through the chain, with a handler that is given by its key. -/
  | call (service : ServiceDescriptor) (handler : η) (pipeline : Pipeline) (status : Status)
      (next : Outcome ε → Pipeline → Status → Code κ η σ ε τ)

/-- What a processor decides on the way in. -/
inductive Decision (κ η σ ε : Type) where
  | stop (o : Outcome ε)
  | proceed (leave : Outcome ε → Code κ η σ ε (Outcome ε))

/-- The code of all processors and handlers. -/
structure Programs (κ η σ ε : Type) where
  processor : κ → ServiceDescriptor → Nat → Code κ η σ ε (Decision κ η σ ε)
  handler : η → ServiceDescriptor → Code κ η σ ε (Outcome ε)

/-- The chain, what has been done with it, and all the rest. -/
structure Desk (κ σ : Type) where
  chain : Chain κ
  journal : List (Moment κ)
  /-- How many calls have begun. -/
  begun : Nat
  rest : σ

namespace Desk

def init (rest : σ) : Desk κ σ := ⟨.empty, [], 0, rest⟩

def note (w : Desk κ σ) (a : Act κ) : Desk κ σ :=
  { w with journal := w.journal ++ [⟨w.chain.installed, a⟩] }

/-- The next call begins. -/
def begin (w : Desk κ σ) : Desk κ σ := { w.note (.began w.begun) with begun := w.begun + 1 }

variable [DecidableEq κ]

def register (w : Desk κ σ) (k : κ) : Bool × Desk κ σ :=
  let r := w.chain.register k
  (r.1, { w.note (.register k r.1) with chain := r.2 })

def unregister (w : Desk κ σ) (k : κ) : Bool × Desk κ σ :=
  let r := w.chain.unregister k
  (r.1, { w.note (.unregister k r.1) with chain := r.2 })

end Desk

def noting (a : Act κ) (c : Call (Desk κ σ)) : Call (Desk κ σ) :=
  { c with world := c.world.note a }

variable [DecidableEq κ]

/-- Code is run with what a call does that it makes. -/
def Code.perform (nested : η → Handler (Desk κ σ) ε) :
    Code κ η σ ε τ → Call (Desk κ σ) → τ × Call (Desk κ σ)
  | .done t, c => (t, c)
  | .look next, c =>
    (next c.world.chain.size ⟨c.pipeline, c.status, c.world.rest⟩).perform nested c
  | .change d next, c =>
    next.perform nested ⟨d.pipeline, d.status, { c.world with rest := d.world }⟩
  | .register k next, c =>
    (next (c.world.register k).1).perform nested { c with world := (c.world.register k).2 }
  | .unregister k next, c =>
    (next (c.world.unregister k).1).perform nested { c with world := (c.world.unregister k).2 }
  | .call service b pipeline status next, c =>
    let r := nested b service ⟨pipeline, status, c.world⟩
    (next r.1 r.2.pipeline r.2.status).perform nested { c with world := r.2.world }

namespace Programs

/-- A processor in the call with the number `id`. -/
def entering (P : Programs κ η σ ε) (nested : η → Handler (Desk κ σ) ε) (id : Nat) (k : κ) :
    Processor (Desk κ σ) ε := fun service n c =>
  match (P.processor k service n).perform nested (noting (.entered id k) c) with
  | (.stop o, c) => (.stop o, noting (.stopped id) c)
  | (.proceed leave, c) => (.proceed fun o c => (leave o).perform nested c, c)

def handling (P : Programs κ η σ ε) (nested : η → Handler (Desk κ σ) ε) (id : Nat) (b : η) :
    Handler (Desk κ σ) ε := fun service c =>
  (P.handler b service).perform nested (noting (.handled id) c)

/-- A call through the chain. Calls may be made inside one another to the given depth; one more
panics before it begins. -/
def call (P : Programs κ η σ ε) : Nat → η → Handler (Desk κ σ) ε
  | 0, _ => fun _ c => (.panic "calls are nested too deep", c)
  | depth + 1, b => fun service c =>
    Chain.invoke Desk.chain (P.entering (P.call depth) c.world.begun)
      (P.handling (P.call depth) c.world.begun b) service { c with world := c.world.begin }

/-- A run from an empty chain. -/
def run (P : Programs κ η σ ε) (depth : Nat) (main : Code κ η σ ε τ) (c : Call σ) :
    τ × Call (Desk κ σ) :=
  main.perform (P.call depth) ⟨c.pipeline, c.status, .init c.world⟩

end Programs

/-! ### What code leaves in the journal -/

/-- From one desk to another these moments have been written down. Besides calls that began among
them only the call `own` is spoken of, if there is one. -/
structure Leads (own : Option Nat) (w w' : Desk κ σ) (ms : List (Moment κ)) : Prop where
  journal : w'.journal = w.journal ++ ms
  tracks : Tracks w.chain.installed ms w'.chain.installed
  begun_le : w.begun ≤ w'.begun
  own_lt : ∀ id, own = some id → id < w.begun
  calls : ∀ m ∈ ms, ∀ id, m.act.call? = some id → own = some id ∨ w.begun ≤ id ∧ id < w'.begun
  through : ∀ m ∈ ms, ∀ id, m.act = .began id → w.begun ≤ id ∧ Through m.installed (trail id ms)

namespace Leads

variable {own : Option Nat} {w w' w'' : Desk κ σ} {ms ms' : List (Moment κ)} {id : Nat}

lemma rest (w : Desk κ σ) (s : σ) : Leads none w { w with rest := s } [] where
  journal := (List.append_nil _).symm
  tracks := rfl
  begun_le := Nat.le_refl _
  own_lt := nofun
  calls := nofun
  through := nofun

lemma refl (w : Desk κ σ) : Leads none w w [] := rest w w.rest

lemma of_none (h : Leads none w w' ms) (hid : id < w.begun) : Leads (some id) w w' ms :=
  { h with
    own_lt := fun _ he => Option.some.inj he ▸ hid
    calls := fun m hm x hx => .inr ((h.calls m hm x hx).resolve_left nofun) }

/-- Of calls that began before or after, nothing is told but of `own`. -/
lemma trail_eq_nil (h : Leads own w w' ms) (hown : own ≠ some id)
    (hid : id < w.begun ∨ w'.begun ≤ id) : trail id ms = [] :=
  Chain.trail_eq_nil fun m hm he => by
    obtain ⟨hge, hlt⟩ := (h.calls m hm id he).resolve_left hown
    omega

/-- A call that began in between has a new number. -/
lemma of_began (h : Leads own w w' ms) {m : Moment κ} (hm : m ∈ ms) (hid : m.act = .began id) :
    own ≠ some id ∧ w.begun ≤ id ∧ id < w'.begun := by
  obtain ⟨hge, -⟩ := h.through m hm id hid
  have hown : own ≠ some id := fun ho => Nat.not_lt.mpr hge (h.own_lt id ho)
  have hcall : m.act.call? = some id := by rw [hid]; rfl
  exact ⟨hown, (h.calls m hm id hcall).resolve_left hown⟩

lemma trans (h : Leads own w w' ms) (h' : Leads own w' w'' ms') :
    Leads own w w'' (ms ++ ms') := by
  have hle := h.begun_le
  have hle' := h'.begun_le
  refine ⟨?_, h.tracks.append h'.tracks, Nat.le_trans hle hle', h.own_lt, ?_, ?_⟩
  · rw [h'.journal, h.journal, List.append_assoc]
  · intro m hm id hid
    rcases List.mem_append.mp hm with hm | hm
    · exact (h.calls m hm id hid).imp_right fun hnew => ⟨hnew.1, Nat.lt_of_lt_of_le hnew.2 hle'⟩
    · exact (h'.calls m hm id hid).imp_right fun hnew => ⟨Nat.le_trans hle hnew.1, hnew.2⟩
  · intro m hm id hid
    rw [trail_append]
    rcases List.mem_append.mp hm with hm | hm
    · obtain ⟨hown, hge, hlt⟩ := h.of_began hm hid
      rw [h'.trail_eq_nil hown (.inl hlt), List.append_nil]
      exact ⟨hge, (h.through m hm id hid).2⟩
    · obtain ⟨hown, hge, -⟩ := h'.of_began hm hid
      rw [h.trail_eq_nil hown (.inr hge), List.nil_append]
      exact ⟨Nat.le_trans hle hge, (h'.through m hm id hid).2⟩

/-- One act, in which no call begins. -/
lemma act {a : Act κ} (hjournal : w'.journal = w.journal ++ [⟨w.chain.installed, a⟩])
    (hanswers : a.Answers w.chain.installed)
    (hafter : w'.chain.installed = a.after w.chain.installed) (hbegun : w'.begun = w.begun)
    (hown : ∀ id, own = some id → id < w.begun) (hcall : ∀ id, a.call? = some id → own = some id)
    (hbegan : ∀ id, a ≠ .began id) : Leads own w w' [⟨w.chain.installed, a⟩] where
  journal := hjournal
  tracks := ⟨rfl, hanswers, hafter.symm⟩
  begun_le := Nat.le_of_eq hbegun.symm
  own_lt := hown
  calls m hm id hid := by
    obtain rfl := List.mem_singleton.mp hm
    exact .inl (hcall id hid)
  through m hm id hid := by
    obtain rfl := List.mem_singleton.mp hm
    exact absurd hid (hbegan id)

lemma register (w : Desk κ σ) (k : κ) :
    Leads none w (w.register k).2
      [⟨w.chain.installed, .register k (w.register k).1⟩] := by
  refine act rfl ?_ ?_ rfl nofun nofun nofun
  · by_cases hk : k ∈ w.chain.installed <;>
      simp [Desk.register, Chain.register, Act.Answers, hk]
  · by_cases hk : k ∈ w.chain.installed <;>
      simp [Desk.register, Chain.register, Act.after, hk]

lemma unregister (w : Desk κ σ) (k : κ) :
    Leads none w (w.unregister k).2
      [⟨w.chain.installed, .unregister k (w.unregister k).1⟩] := by
  refine act rfl ?_ ?_ rfl nofun nofun nofun
  · simp [Desk.unregister, Chain.unregister, Act.Answers]
  · by_cases hk : k ∈ w.chain.installed <;>
      simp [Desk.unregister, Chain.unregister, Act.after, hk]

/-- What a call under way writes down of itself. -/
lemma stage (w : Desk κ σ) (hid : id < w.begun) {a : Act κ} {x : Stage κ}
    (hx : a.stage? id = some x) : Leads (some id) w (w.note a) [⟨w.chain.installed, a⟩] := by
  have hcall := Act.call?_of_stage? hx
  have hplain : a.Answers w.chain.installed ∧ a.after w.chain.installed = w.chain.installed ∧
      ∀ x, a ≠ .began x := by
    cases a with
    | entered _ _ | handled _ | stopped _ => exact ⟨trivial, rfl, nofun⟩
    | register _ _ | unregister _ _ | began _ => cases hx
  exact act rfl hplain.1 hplain.2.1.symm rfl (fun _ he => Option.some.inj he ▸ hid)
    (fun _ he => hcall.symm.trans he) hplain.2.2

/-- A call from its beginning on, if it goes through what was installed then. -/
lemma began (h : Leads (some w.begun) w.begin w' ms)
    (hthrough : Through w.chain.installed (trail w.begun ms)) :
    Leads none w w' (⟨w.chain.installed, .began w.begun⟩ :: ms) where
  journal := by
    rw [h.journal]
    exact List.append_assoc ..
  tracks := ⟨rfl, trivial, h.tracks⟩
  begun_le := Nat.le_of_succ_le h.begun_le
  own_lt := nofun
  calls m hm id hid := by
    have hle : w.begun + 1 ≤ w'.begun := h.begun_le
    rcases List.mem_cons.mp hm with rfl | hm
    · obtain rfl : w.begun = id := Option.some.inj hid
      exact .inr ⟨Nat.le_refl _, hle⟩
    · rcases h.calls m hm id hid with ho | ⟨hge, hlt⟩
      · obtain rfl : w.begun = id := Option.some.inj ho
        exact .inr ⟨Nat.le_refl _, hle⟩
      · exact .inr ⟨Nat.le_of_succ_le hge, hlt⟩
  through m hm id hid := by
    rcases List.mem_cons.mp hm with rfl | hm
    · obtain rfl : w.begun = id := by simpa using hid
      exact ⟨Nat.le_refl _, hthrough⟩
    · obtain ⟨hge, ht⟩ := h.through m hm id hid
      exact ⟨Nat.le_of_succ_le hge, ht⟩

end Leads

/-! ### Code, processors and calls -/

lemma world_marking {ω ε : Type} (h : Handler ω ε) (service : ServiceDescriptor) (c : Call ω) :
    (h.marking service c).2.world = (h service c).2.world := by
  unfold Handler.marking
  split <;> simp_all

/-- What a call does that is made within code leads on. -/
def Sound (nested : η → Handler (Desk κ σ) ε) : Prop :=
  ∀ b service c, ∃ ms, Leads none c.world (nested b service c).2.world ms

variable {nested : η → Handler (Desk κ σ) ε}

lemma Sound.perform (hn : Sound nested) (code : Code κ η σ ε τ) (c : Call (Desk κ σ)) :
    ∃ ms, Leads none c.world (code.perform nested c).2.world ms := by
  induction code generalizing c with
  | done t => exact ⟨[], .refl _⟩
  | look next ih => exact ih _ _ c
  | change d next ih =>
    obtain ⟨ms, hms⟩ := ih ⟨d.pipeline, d.status, { c.world with rest := d.world }⟩
    exact ⟨_, (Leads.rest c.world d.world).trans hms⟩
  | register k next ih =>
    obtain ⟨ms, hms⟩ := ih (c.world.register k).1 { c with world := (c.world.register k).2 }
    exact ⟨_, (Leads.register c.world k).trans hms⟩
  | unregister k next ih =>
    obtain ⟨ms, hms⟩ := ih (c.world.unregister k).1 { c with world := (c.world.unregister k).2 }
    exact ⟨_, (Leads.unregister c.world k).trans hms⟩
  | call service b pipeline status next ih =>
    obtain ⟨ms, hms⟩ := hn b service ⟨pipeline, status, c.world⟩
    obtain ⟨ms', hms'⟩ := ih _ _ _ { c with
      world := (nested b service ⟨pipeline, status, c.world⟩).2.world }
    exact ⟨_, hms.trans hms'⟩

variable {P : Programs κ η σ ε}

lemma Sound.handling (hn : Sound nested) {id : Nat} (b : η) (service : ServiceDescriptor)
    (c : Call (Desk κ σ)) (hid : id < c.world.begun) :
    ∃ ms, Leads (some id) c.world (P.handling nested id b service c).2.world ms ∧
      trail id ms = [.handled] := by
  have hstage : (Act.handled id : Act κ).stage? id = some .handled := if_pos rfl
  obtain ⟨ms, hms⟩ := hn.perform (P.handler b service) (noting (.handled id) c)
  refine ⟨_, (Leads.stage c.world hid hstage).trans (hms.of_none hid), ?_⟩
  rw [trail_append, hms.trail_eq_nil nofun (.inl hid), List.append_nil, trail_singleton hstage]

/-- The way in of a processor, up to its decision. -/
lemma Sound.enter (hn : Sound nested) {id : Nat} (k : κ) (service : ServiceDescriptor) (n : Nat)
    (c : Call (Desk κ σ)) (hid : id < c.world.begun) :
    ∃ ms, Leads (some id) c.world
        ((P.processor k service n).perform nested (noting (.entered id k) c)).2.world ms ∧
      trail id ms = [.entered k] := by
  have hstage : (Act.entered id k).stage? id = some (.entered k) := if_pos rfl
  obtain ⟨ms, hms⟩ := hn.perform (P.processor k service n) (noting (.entered id k) c)
  refine ⟨_, (Leads.stage c.world hid hstage).trans (hms.of_none hid), ?_⟩
  rw [trail_append, hms.trail_eq_nil nofun (.inl hid), List.append_nil, trail_singleton hstage]

lemma Sound.entering_stop (hn : Sound nested) {id : Nat} {k : κ} {service : ServiceDescriptor}
    {n : Nat} {c d : Call (Desk κ σ)} {o : Outcome ε} (hid : id < c.world.begun)
    (hk : P.entering nested id k service n c = (.stop o, d)) :
    ∃ ms, Leads (some id) c.world d.world ms ∧ trail id ms = [.entered k, .stopped] := by
  obtain ⟨ms, hms, htrail⟩ := hn.enter (P := P) k service n c hid
  unfold Programs.entering at hk
  split at hk
  · next o' d' hp =>
    obtain rfl : noting (.stopped id) d' = d := congrArg Prod.snd hk
    rw [hp] at hms
    have hstage : (Act.stopped id : Act κ).stage? id = some .stopped := if_pos rfl
    have hstop := Leads.stage d'.world (Nat.lt_of_lt_of_le hid hms.begun_le) hstage
    refine ⟨_, hms.trans hstop, ?_⟩
    rw [trail_append, htrail, trail_singleton hstage]
    rfl
  · cases hk

lemma Sound.entering_proceed (hn : Sound nested) {id : Nat} {k : κ} {service : ServiceDescriptor}
    {n : Nat} {c d : Call (Desk κ σ)}
    {leave : Outcome ε → Call (Desk κ σ) → Outcome ε × Call (Desk κ σ)}
    (hid : id < c.world.begun)
    (hk : P.entering nested id k service n c = (.proceed leave, d)) :
    (∃ ms, Leads (some id) c.world d.world ms ∧ trail id ms = [.entered k]) ∧
      ∀ o e, ∃ ms, Leads none e.world (leave o e).2.world ms := by
  have henter := hn.enter (P := P) k service n c hid
  unfold Programs.entering at hk
  split at hk
  · cases hk
  · next code d' hp =>
    cases hk
    rw [hp] at henter
    exact ⟨henter, fun o e => hn.perform (code o) e⟩

/-- A call on its way leads on, and goes through the processors that it has been given. -/
lemma Sound.run (hn : Sound nested) {id : Nat} (b : η) (service : ServiceDescriptor) (ks : List κ)
    (c : Call (Desk κ σ)) (hid : id < c.world.begun) :
    ∃ ms, Leads (some id) c.world (Processor.run service (P.handling nested id b).marking
        (ks.map (P.entering nested id)) c).2.world ms ∧ Through ks (trail id ms) := by
  induction ks generalizing c with
  | nil =>
    obtain ⟨ms, hms, htrail⟩ := hn.handling (P := P) b service c hid
    rw [List.map_nil, Processor.run, world_marking]
    exact ⟨ms, hms, .inl htrail⟩
  | cons k ks ih =>
    rw [List.map_cons, Processor.run]
    rcases hk : P.entering nested id k service (ks.map (P.entering nested id)).length c
      with ⟨o | leave, d⟩
    · obtain ⟨ms, hms, htrail⟩ := hn.entering_stop hid hk
      exact ⟨ms, hms, htrail ▸ Through.stop k ks⟩
    · obtain ⟨⟨ms, hms, htrail⟩, hleave⟩ := hn.entering_proceed hid hk
      have hd : id < d.world.begun := Nat.lt_of_lt_of_le hid hms.begun_le
      obtain ⟨ms', hms', hthrough⟩ := ih d hd
      have hr := Nat.lt_of_lt_of_le hd hms'.begun_le
      obtain ⟨ms'', hms''⟩ := hleave _ _
      refine ⟨_, (hms.trans hms').trans (hms''.of_none hr), ?_⟩
      rw [trail_append, trail_append, htrail, hms''.trail_eq_nil nofun (.inl hr), List.append_nil]
      exact hthrough.cons

/-- Calls lead on, however deep they are nested. -/
lemma sound_call (P : Programs κ η σ ε) (depth : Nat) : Sound (P.call (σ := σ) depth) := by
  induction depth with
  | zero => exact fun _ _ c => ⟨[], .refl _⟩
  | succ depth ih =>
    intro b service c
    obtain ⟨ms, hms, hthrough⟩ := ih.run (P := P) b service c.world.chain.installed
      { c with world := c.world.begin } (Nat.lt_succ_self c.world.begun)
    exact ⟨_, hms.began hthrough⟩

/-- **The chain is at every moment what has been done with it.** Wherever processors and handlers
change it and make calls: no processor is installed twice, they stand in the order in which each
was added last, each answer is right and only what is answered with true changes the list. A call
goes through the processors that were installed when it began. -/
theorem registration_exact (P : Programs κ η σ ε) (depth : Nat) (main : Code κ η σ ε τ)
    (c : Call σ) :
    let w := (P.run depth main c).2.world
    Ordered (w.journal.map Moment.act) w.chain.installed ∧
      ∀ before m after, w.journal = before ++ m :: after →
        Ordered (before.map Moment.act) m.installed ∧
        m.act.Answers m.installed ∧
        (after.map Moment.installed ++ [w.chain.installed]).head? =
          some (m.act.after m.installed) ∧
        ∀ id, m.act = .began id → Through m.installed (trail id w.journal) := by
  intro w
  obtain ⟨ms, hms⟩ := (sound_call P depth).perform main ⟨c.pipeline, c.status, .init c.world⟩
  have hjournal : w.journal = ms := hms.journal
  have htracks : Tracks [] ms w.chain.installed := hms.tracks
  rw [hjournal]
  refine ⟨ordered_nil.run htracks, fun before m after he => ?_⟩
  rw [he] at htracks
  obtain ⟨hbefore, -, hanswers, hafter⟩ := htracks.split
  refine ⟨ordered_nil.run hbefore, hanswers, hafter.head?, fun id hid => ?_⟩
  have hm : m ∈ ms := by simp [he]
  exact (hms.through m hm id hid).2

/-- Processor 0 installs processor 1, and one handler makes a call with the other. -/
def Programs.growing : Programs Nat Bool Unit Unit where
  processor k _ _ :=
    if k = 0 then .register 1 fun _ => .done (.proceed .done) else .done (.proceed .done)
  handler again service :=
    if again then .call service false .empty .fresh fun o _ _ => .done o else .done .ok

/-- The call inside comes to the processor that was installed while the call around it ran, and
the call around it does not. -/
theorem registration_exact_growing :
    let main : Code Nat Bool Unit Unit Unit := .register 0 fun _ =>
      .call (Demo.service 1) true .empty .fresh fun _ _ _ => .done ()
    let w := (Programs.growing.run 2 main ⟨.empty, .fresh, ()⟩).2.world
    w.chain.installed = [0, 1] ∧
      (∃ before after, w.journal = before ++ ⟨[0], .began 0⟩ :: after) ∧
      (∃ before after, w.journal = before ++ ⟨[0, 1], .began 1⟩ :: after) ∧
      Through [0] (trail 0 w.journal) ∧ Through [0, 1] (trail 1 w.journal) := by
  intro main w
  have houter : w.journal = w.journal.take 1 ++ ⟨[0], .began 0⟩ :: w.journal.drop 2 := rfl
  have hinner : w.journal = w.journal.take 5 ++ ⟨[0, 1], .began 1⟩ :: w.journal.drop 6 := rfl
  have hexact := (registration_exact Programs.growing 2 main ⟨.empty, .fresh, ()⟩).2
  exact ⟨rfl, ⟨_, _, houter⟩, ⟨_, _, hinner⟩, (hexact _ _ _ houter).2.2.2 0 rfl,
    (hexact _ _ _ hinner).2.2.2 1 rfl⟩

end CallWatch.Chain
