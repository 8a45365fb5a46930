import CallWatch.Call

/-!
The chain of installed processors.

A processor is installed at most once; the list is in the order of installation. A call runs
through the list that is installed when it begins, whatever is installed or taken out while
it runs.
-/

namespace CallWatch

/-- The installed processors, given by keys. -/
structure Chain (κ : Type) where
  installed : List κ
  nodup : installed.Nodup

namespace Chain

variable {κ ω ε : Type} [DecidableEq κ]

def empty : Chain κ := ⟨[], List.nodup_nil⟩

def size (ch : Chain κ) : Nat := ch.installed.length

def isEmpty (ch : Chain κ) : Bool := ch.installed.isEmpty

/-- Installs a processor at the end; true if it was not there. -/
def register (ch : Chain κ) (k : κ) : Bool × Chain κ :=
  if h : k ∈ ch.installed then (false, ch)
  else (true, ⟨ch.installed ++ [k], List.nodup_append.2 ⟨ch.nodup, by simp, by
    intro a ha b hb hab
    exact h (by simp_all)⟩⟩)

/-- Takes a processor out; true if it was there. -/
def unregister (ch : Chain κ) (k : κ) : Bool × Chain κ :=
  (decide (k ∈ ch.installed), ⟨ch.installed.erase k, ch.nodup.erase k⟩)

def debugText (ch : Chain κ) : String :=
  "ProcessorChain \x7b processors: " ++ Text.Numeral.text ch.size ++ " \x7d"

end Chain

namespace Chain

variable {κ ω ε : Type}

/-- A call through the chain that the world holds; the handler's outcome marks the status. -/
def invoke (chainOf : ω → Chain κ) (behaviour : κ → Processor ω ε) (h : Handler ω ε)
    (service : ServiceDescriptor) (c : Call ω) : Outcome ε × Call ω :=
  Processor.run service h.marking ((chainOf c.world).installed.map behaviour) c

/-- A call of a pipeline with a status of its own, which nobody sees afterwards. -/
def call (chainOf : ω → Chain κ) (behaviour : κ → Processor ω ε) (h : Handler ω ε)
    (service : ServiceDescriptor) (pipeline : Pipeline) (w : ω) : Outcome ε × Pipeline × ω :=
  let r := invoke chainOf behaviour h service ⟨pipeline, .fresh, w⟩
  (r.1, r.2.pipeline, r.2.world)

end Chain

end CallWatch
