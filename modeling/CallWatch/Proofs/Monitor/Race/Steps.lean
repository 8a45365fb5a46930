import CallWatch.Proofs.Monitor.Journal

/-!
The operations of a monitor in the steps in which threads take them.

Whatever reads or writes what the threads share is a step of its own: a registration loads the
epoch, asks whether the monitor is started, pushes its frame, and compares the epoch, and then
takes the frame out again or counts the call; a completion compares the epoch, pops the frame
and counts the error; a start or a stop holds a lock, and clears the registry entry by entry.
The steps of different threads follow each other in any order. What cannot be taken is left
out, so that every list of actions is a run.

The counters of an epoch stay when it is over, since a call that was registered in it still
counts there.
-/

namespace CallWatch

/-- The registry without the entry of a thread. -/
def Registry.without (n : Nat) (r : Registry) : Registry := r.filter fun i => i.thread.number != n

namespace Race

/-- The counters of an epoch, without an upper bound as those of a monitor. -/
structure Tally where
  invocations : Nat
  errors : Nat

/-- What the threads share. -/
structure Memory where
  epoch : Nat
  startMillis : Option Int
  tallies : Nat → Tally
  registry : Registry
  /-- The serial number of the next frame. -/
  nextSerial : Nat

namespace Memory

def init : Memory := ⟨0, none, fun _ => ⟨0, 0⟩, [], 0⟩

/-- The monitor that is seen there. -/
def monitor (m : Memory) : Monitor where
  epoch := m.epoch
  startMillis := m.startMillis
  invocations := (m.tallies m.epoch).invocations
  errors := (m.tallies m.epoch).errors
  registry := m.registry
  nextSerial := m.nextSerial
  kept := []

def isStarted (m : Memory) : Bool := m.startMillis.isSome

/-- The next epoch, with counters of its own. -/
def swapped (m : Memory) (epoch : Nat) : Memory :=
  { m with epoch := epoch + 1, tallies := setAt m.tallies (epoch + 1) ⟨0, 0⟩ }

/-- A call counts in an epoch, be it over or not. -/
def counted (m : Memory) (epoch : Nat) : Memory :=
  let t := m.tallies epoch
  { m with tallies := setAt m.tallies epoch { t with invocations := t.invocations + 1 } }

def failed (m : Memory) (epoch : Nat) : Memory :=
  let t := m.tallies epoch
  { m with tallies := setAt m.tallies epoch { t with errors := t.errors + 1 } }

variable {m : Memory} {e : Nat}

lemma invocations_counted : (m.counted e).monitor.invocations =
    m.monitor.invocations + (decide (e = m.epoch)).toNat := by
  by_cases he : e = m.epoch
  · simp [counted, monitor, he]
  · simp [counted, monitor, he, setAt_of_ne _ _ (Ne.symm he)]

lemma errors_counted : (m.counted e).monitor.errors = m.monitor.errors := by
  by_cases he : e = m.epoch
  · simp [counted, monitor, he]
  · simp [counted, monitor, setAt_of_ne _ _ (Ne.symm he)]

lemma invocations_failed : (m.failed e).monitor.invocations = m.monitor.invocations := by
  by_cases he : e = m.epoch
  · simp [failed, monitor, he]
  · simp [failed, monitor, setAt_of_ne _ _ (Ne.symm he)]

lemma errors_failed : (m.failed e).monitor.errors =
    m.monitor.errors + (decide (e = m.epoch)).toNat := by
  by_cases he : e = m.epoch
  · simp [failed, monitor, he]
  · simp [failed, monitor, he, setAt_of_ne _ _ (Ne.symm he)]

end Memory

/-! ### Where threads are -/

/-- A call as it comes to the monitor. -/
structure Arrival where
  thread : Thread
  service : ServiceDescriptor
  pipeline : Pipeline
  state : Except Envelope InvokeState
  now : Instant

/-- What a thread does next: in the first five cases for a call that comes, in the last two
for one that ends. -/
inductive Phase where
  | idle
  | check (a : Arrival) (epoch : Nat)
  | push (a : Arrival) (st : InvokeState) (epoch : Nat)
  | compare (a : Arrival) (k : Ticket)
  | undo (a : Arrival) (k : Ticket)
  | count (a : Arrival) (k : Ticket)
  | pop (k : Ticket) (failed : Bool)
  | fail (k : Ticket)

inductive Change where
  | start (now : Instant)
  | stop

namespace Change

def starts : Change → Bool
  | start _ => true
  | stop => false

def event : Change → Event
  | start now => .start now
  | stop => .stop

/-- What is stored as the time of the start. -/
def millis : Change → Option Int
  | start now => some (max now.millis 1)
  | stop => none

end Change

/-- What the caller that holds the lock does next. -/
inductive Lock where
  | free
  | check (c : Change)
  | store (c : Change)
  | load (c : Change)
  | swap (c : Change) (epoch : Nat)
  /-- The entries of these threads have been cleared. -/
  | sweep (c : Change) (visited : List Nat)

structure State where
  memory : Memory
  phase : Nat → Phase
  /-- The tickets of the unfinished calls of every thread, innermost first. -/
  unfinished : Nat → List (Option Ticket)
  lock : Lock
  /-- What has happened so far: a call is in it once it is registered or passed over. -/
  journal : Journal
  /-- The starts and stops so far with their answers, latest first. -/
  answers : List (Change × Bool)

/-- The number of the start that opened an epoch; none if a stop did. -/
def activation (epoch : Nat) : Option Nat :=
  if epoch % 2 = 1 then some ((epoch + 1) / 2) else none

/-- The call in the journal. -/
def Arrival.visit (a : Arrival) (activation : Option Nat) : Visit :=
  ⟨a.thread.number, a.service, a.pipeline, a.state, a.now, activation, none⟩

def Arrival.frame (a : Arrival) (st : InvokeState) (serial : Nat) : Frame :=
  ⟨serial, a.service, a.pipeline, st, a.now⟩

/-! ### Steps -/

namespace State

def init : State := ⟨.init, fun _ => .idle, fun _ => [], .free, .empty, []⟩

def goto (s : State) (n : Nat) (p : Phase) : State := { s with phase := setAt s.phase n p }

/-- A call goes on, with a ticket or without. -/
def entered (s : State) (n : Nat) (k : Option Ticket) (v : Visit) : State :=
  { s.goto n .idle with
    unfinished := setAt s.unfinished n (k :: s.unfinished n)
    journal := { s.journal with visits := v :: s.journal.visits } }

/-- The innermost call of a thread is over. -/
def left (s : State) (n : Nat) (failed : Bool) : State :=
  { s.goto n .idle with
    unfinished := setAt s.unfinished n (s.unfinished n).tail
    journal := s.journal.note (.leave n failed) }

def answered (s : State) (c : Change) (b : Bool) : State :=
  { s with lock := .free, journal := s.journal.note c.event, answers := (c, b) :: s.answers }

/-- The next step of a thread that is registering or completing a call. -/
def advance (s : State) (n : Nat) : State :=
  match s.phase n with
  | .idle => s
  | .check a epoch =>
    if s.memory.isStarted then
      match a.state with
      | .ok st => s.goto n (.push a st epoch)
      | .error _ => s.entered n none (a.visit (activation epoch))
    else s.entered n none (a.visit none)
  | .push a st epoch =>
    let serial := s.memory.nextSerial
    { s.goto n (.compare a ⟨n, epoch, serial⟩) with memory := { s.memory with
        registry := s.memory.registry.push a.thread (a.frame st serial)
        nextSerial := serial + 1 } }
  | .compare a k =>
    if k.epoch = s.memory.epoch then s.goto n (.count a k) else s.goto n (.undo a k)
  | .undo a k =>
    { s.entered n none (a.visit none) with
      memory := { s.memory with registry := s.memory.registry.pop k.thread k.serial } }
  | .count a k =>
    { s.entered n (some k) (a.visit (activation k.epoch)) with
      memory := s.memory.counted k.epoch }
  | .pop k failed =>
    let s := { s with
      memory := { s.memory with registry := s.memory.registry.pop k.thread k.serial } }
    if failed then s.goto n (.fail k) else s.left n false
  | .fail k => { s.left n true with memory := s.memory.failed k.epoch }

/-- A call comes to its thread, which loads the epoch. -/
def arrive (s : State) (a : Arrival) : State :=
  match s.phase a.thread.number with
  | .idle => s.goto a.thread.number (.check a s.memory.epoch)
  | _ => s

/-- The innermost call of a thread ends: the thread compares its epoch, if it has a ticket. -/
def leave (s : State) (n : Nat) (failed : Bool) : State :=
  match s.phase n, s.unfinished n with
  | .idle, none :: _ => s.left n failed
  | .idle, some k :: _ =>
    if k.epoch = s.memory.epoch then s.goto n (.pop k failed) else s.left n failed
  | _, _ => s

/-- Somebody takes the lock for a start or a stop; while it is held others wait. -/
def seize (s : State) (c : Change) : State :=
  match s.lock with
  | .free => { s with lock := .check c }
  | _ => s

/-- The next step under the lock. A start stores its time last, a stop first. -/
def proceed (s : State) : State :=
  match s.lock with
  | .free => s
  | .check c =>
    if s.memory.isStarted = c.starts then s.answered c false
    else { s with lock := if c.starts then .load c else .store c }
  | .store c =>
    let s := { s with memory := { s.memory with startMillis := c.millis } }
    if c.starts then s.answered c true else { s with lock := .load c }
  | .load c => { s with lock := .swap c s.memory.epoch }
  | .swap c epoch => { s with memory := s.memory.swapped epoch, lock := .sweep c [] }
  | .sweep c visited =>
    if ∀ i ∈ s.memory.registry, i.thread.number ∈ visited then
      if c.starts then { s with lock := .store c } else s.answered c true
    else s

/-- The entry of a thread is cleared, if there is one; every thread has its turn once. -/
def clear (s : State) (n : Nat) : State :=
  match s.lock with
  | .sweep c visited =>
    if n ∈ visited then s
    else { s with
      memory := { s.memory with registry := s.memory.registry.without n }
      lock := .sweep c (n :: visited) }
  | _ => s

end State

inductive Action where
  | arrive (a : Arrival)
  | leave (n : Nat) (failed : Bool)
  | advance (n : Nat)
  | seize (c : Change)
  | proceed
  | clear (n : Nat)

namespace State

def step (s : State) : Action → State
  | .arrive a => s.arrive a
  | .leave n failed => s.leave n failed
  | .advance n => s.advance n
  | .seize c => s.seize c
  | .proceed => s.proceed
  | .clear n => s.clear n

def run (s : State) (as : List Action) : State := as.foldl step s

@[simp] lemma run_nil (s : State) : run s [] = s := rfl

@[simp] lemma run_cons (s : State) (a : Action) (as : List Action) :
    run s (a :: as) = run (step s a) as := rfl

lemma run_append (s : State) (as bs : List Action) : run s (as ++ bs) = run (run s as) bs := by
  simp [run]

/-- Nobody is in the middle of a registration, a completion, a start or a stop. -/
structure Quiet (s : State) : Prop where
  idle : ∀ n, s.phase n = .idle
  free : s.lock = .free

end State

end Race

end CallWatch
