import CallWatch.Name.Service
import CallWatch.Pipeline

/-!
Service calls and how they end.

A call carries its pipeline, a status and the world around it. It ends well, with an error,
or in a panic, which carries a payload and passes everything that does not catch it.

The service is no part of the call here: it is given to a run as a whole. A processor that puts
another service in its place, for those after it, is left out.
-/

namespace CallWatch

inductive Outcome (ε : Type) where
  | ok
  | err (e : ε)
  | panic (payload : String)
  deriving DecidableEq

def Outcome.failed {ε : Type} : Outcome ε → Bool
  | .ok => false
  | _ => true

/-- Whether the service has run, and whether it failed. -/
structure Status where
  completed : Bool
  failed : Bool
  deriving DecidableEq

namespace Status

def fresh : Status := ⟨false, false⟩
def markedCompleted : Status := ⟨true, false⟩
def markedFailed : Status := ⟨true, true⟩

def text (s : Status) : String :=
  "completed=" ++ toString s.completed ++ " failed=" ++ toString s.failed

end Status

/-- A call in progress in a world of type `ω`. -/
structure Call (ω : Type) where
  pipeline : Pipeline
  status : Status
  world : ω

/-- What runs at the end of a chain. -/
abbrev Handler (ω ε : Type) := ServiceDescriptor → Call ω → Outcome ε × Call ω

/-- What a processor does on the way in: it ends the call there, or lets it go on and waits
for the outcome. It can let the call go on only once. -/
inductive Entry (ω ε : Type) where
  | stop (o : Outcome ε)
  | proceed (leave : Outcome ε → Call ω → Outcome ε × Call ω)

/-- A processor sees the service, the number of processors after it, and the call. -/
abbrev Processor (ω ε : Type) := ServiceDescriptor → Nat → Call ω → Entry ω ε × Call ω

variable {ω ε : Type}

/-- A handler whose own outcome is recorded in the status, a panic leaving no record. -/
def Handler.marking (h : Handler ω ε) : Handler ω ε := fun service c =>
  match h service c with
  | (.ok, c) => (.ok, { c with status := .markedCompleted })
  | (.err e, c) => (.err e, { c with status := .markedFailed })
  | (.panic p, c) => (.panic p, c)

/-- One run through a list of processors to the handler and back. -/
def Processor.run (service : ServiceDescriptor) (h : Handler ω ε) :
    List (Processor ω ε) → Call ω → Outcome ε × Call ω
  | [], c => h service c
  | p :: ps, c =>
    match p service ps.length c with
    | (.stop o, c) => (o, c)
    | (.proceed leave, c) =>
      let r := Processor.run service h ps c
      leave r.1 r.2

end CallWatch
