import CallWatch.Monitor.Watch

/-!
A workload that shows a monitor at work.

Every worker, a thread of its own, makes nested calls down to a given depth and waits there.
When all of them have arrived a report is taken, and then the workers leave, innermost calls
first.
-/

namespace CallWatch

open CallWatch.Text

/-! ### Numbered names -/

theorem isBlank_digitChar : ∀ d < 10, isBlank (Numeral.digitChar d) = false := by decide

/-- A stem without blanks and a number after it. -/
def Label.numbered (kind : NameKind) (stem : String) (n : Nat)
    (h : stem ≠ "" ∧ stem.toList.all (!isBlank ·) = true) : Label kind where
  text := stem ++ Numeral.text n
  nonempty e := h.1 (by
    have e := congrArg String.toList e
    simp only [String.toList_append] at e
    exact String.toList_inj.1 (List.append_eq_nil_iff.1 e).1)
  trimmed := by
    rw [trim, trimChars_of_solid, String.ofList_toList]
    intro c hc
    rw [String.toList_append, List.mem_append] at hc
    rcases hc with hc | hc
    · simpa using List.all_eq_true.1 h.2 c hc
    · rw [Numeral.text, String.toList_ofList] at hc
      obtain ⟨d, hd, rfl⟩ := Numeral.eq_digitChar_of_mem_digits hc
      exact isBlank_digitChar d hd

namespace ServiceName

theorem isSegmentChar_digitChar : ∀ d < 10, isSegmentChar (Numeral.digitChar d) = true := by
  decide +kernel

theorem isSegment_level (n : Nat) :
    isSegment (['l', 'e', 'v', 'e', 'l'] ++ Numeral.digits n) = true := by
  show isSegment ('l' :: (['e', 'v', 'e', 'l'] ++ Numeral.digits n)) = true
  rw [isSegment, List.all_append, Bool.and_eq_true, Bool.and_eq_true]
  refine ⟨by decide +kernel, by decide +kernel, List.all_eq_true.2 fun c hc => ?_⟩
  obtain ⟨d, hd, rfl⟩ := Numeral.eq_digitChar_of_mem_digits hc
  exact isSegmentChar_digitChar d hd

/-- The local name `level` with a number, in the interface `tundra.demo`. -/
def demoLevel (n : Nat) : ServiceName where
  text := "tundra.demo:level" ++ Numeral.text n
  colon := 11
  colon_ok := by
    have hdigits : (Numeral.text n).toList = Numeral.digits n := String.toList_ofList
    have hcolon : ':' ∉ "tundra.demo".toList := by decide
    rw [String.toList_append, hdigits]
    exact colonOf?_append hcolon (by decide +kernel) (isSegment_level n)

end ServiceName

/-! ### Options -/

structure DemoOptions where
  threads : Nat
  depth : Nat
  /-- How long the workers wait before the report is taken. -/
  holdMillis : Nat
  fail : Bool

/-- The options that have a range. -/
inductive DemoOption where
  | threads
  | depth
  deriving DecidableEq

def DemoOption.name : DemoOption → String
  | threads => "threads"
  | depth => "depth"

def DemoOption.greatest : DemoOption → Nat
  | threads => 256
  | depth => 64

structure DemoError where
  option : DemoOption
  got : Nat

def DemoError.message (e : DemoError) : String :=
  e.option.name ++ " must be between 1 and " ++ Numeral.text e.option.greatest ++ " (got "
    ++ Numeral.text e.got ++ ")"

def DemoError.envelope (e : DemoError) : Envelope :=
  (Envelope.expected ⟨"demo", "invalid_options"⟩ e.message).noting "option" e.option.name

namespace DemoOptions

def standard : DemoOptions := ⟨2, 3, 50, false⟩

def get (o : DemoOptions) : DemoOption → Nat
  | .threads => o.threads
  | .depth => o.depth

/-- The first option that is out of its range. -/
def outside? (o : DemoOptions) : Option DemoError :=
  ([.threads, .depth].find? fun k => o.get k = 0 || k.greatest < o.get k).map
    fun k => ⟨k, o.get k⟩

end DemoOptions

/-! ### Workers -/

namespace Demo

def package : PackageName := ⟨"TundraDemo", by decide, by decide⟩

def service (level : Nat) : ServiceDescriptor := ⟨.demoLevel level, package⟩

/-- The services of every worker, outermost first. -/
def services (depth : Nat) : List ServiceDescriptor :=
  (List.range depth).map fun l => service (l + 1)

def thread (worker : Nat) : Thread := ⟨worker + 1, "demo-worker-" ++ Numeral.text worker⟩

def state (worker : Nat) : InvokeState where
  session := .numbered .session "demo-session-" worker (by decide)
  user := .numbered .user "demo-user-" worker (by decide)

def pipeline (worker level : Nat) : Pipeline :=
  (Pipeline.empty.insert "worker" (.nat worker)).insert "level" (.nat level)

/-- A worker makes its calls. -/
def entries (depth : Nat) (now : Instant) (worker : Nat) : List Event :=
  (List.range depth).map fun l =>
    .enter (thread worker) (service (l + 1)) (pipeline worker (l + 1)) (.ok (state worker)) now

/-- The calls of a worker end. -/
def exits (depth : Nat) (fail : Bool) (worker : Nat) : List Event :=
  List.replicate depth (.leave (thread worker).number fail)

end Demo

structure DemoOutcome where
  /-- Taken while every worker was in its innermost call. -/
  report : UsageReport
  succeeded : Nat
  failed : Nat
  /-- The counters after all workers have finished. -/
  invocations : Nat
  errors : Nat

namespace Demo

/-- All workers enter, a report is taken later, and all workers leave; a stopped monitor is
started before. -/
def run (o : DemoOptions) (now later : Instant) (w : Watch) : DemoOutcome × Watch :=
  let w := (w.start now).2
  let w := w.run ((List.range o.threads).flatMap (entries o.depth now))
  let r := w.report later
  let w := r.2.run ((List.range o.threads).flatMap (exits o.depth o.fail))
  let failed := if o.fail then o.threads else 0
  ({ report := r.1
     succeeded := o.threads - failed
     failed := failed
     invocations := w.monitor.invocations
     errors := w.monitor.errors }, w)

/-- The workload with options in their ranges. -/
def checkedRun (o : DemoOptions) (now later : Instant) (w : Watch) :
    Except DemoError (DemoOutcome × Watch) :=
  match o.outside? with
  | some e => .error e
  | none => .ok (run o now later w)

end Demo

end CallWatch
