import CallWatch.Chain.Basic

/-!
Processors and handlers that follow a script.

A scripted processor can edit the pipeline before and after, install and take out
processors, end the call, and replace its result; a scripted handler can edit the pipeline,
make a nested call through the chain, fail and panic. Both leave entries in a trace.
-/

namespace CallWatch.Script

open CallWatch.Text

structure ProcessorScript where
  insertBefore : Option (String × Json)
  register : Option String
  unregister : Option String
  /-- End the call here: with an error, or well. -/
  stop : Option (Option String)
  insertAfter : Option (String × Json)
  /-- Turn a good outcome into an error. -/
  failOk : Option String
  /-- Turn an error into another one, or into a good outcome. -/
  onErr : Option (Option String)

structure HandlerScript where
  insert : Option (String × Json)
  remove : Option String
  /-- Return an error of the nested call at once. -/
  propagate : Bool
  panic : Option String
  fail : Option String

/-- A call and its handler's script. -/
structure ScriptedCall where
  service : ServiceDescriptor
  pipeline : Pipeline
  handler : HandlerScript

/-- The chain that is installed, the scripts by name, and the trace, latest entry first. -/
structure World where
  chain : Chain String
  scripts : Record ProcessorScript
  trace : List String

abbrev Result := Outcome String

def note (c : Call World) (entry : String) : Call World :=
  { c with world := { c.world with trace := entry :: c.world.trace } }

def insertInto (c : Call World) : Option (String × Json) → Call World
  | none => c
  | some (k, v) => { c with pipeline := c.pipeline.insert k v }

def resultText : Result → String
  | .ok => "ok"
  | .err e => "err:" ++ e
  | .panic p => "panic:" ++ p

def ofOption : Option String → Result
  | none => .ok
  | some e => .err e

def registering (name : String) (c : Call World) : Option String → Call World
  | none => c
  | some other =>
    let r := c.world.chain.register other
    note { c with world := { c.world with chain := r.2 } }
      (name ++ ":register " ++ other ++ "=" ++ toString r.1)

def unregistering (name : String) (c : Call World) : Option String → Call World
  | none => c
  | some other =>
    let r := c.world.chain.unregister other
    note { c with world := { c.world with chain := r.2 } }
      (name ++ ":unregister " ++ other ++ "=" ++ toString r.1)

/-- What the processor makes of the result it sees. -/
def replaced (s : ProcessorScript) (o : Result) : Result :=
  let o : Result := match o, s.failOk with
    | .ok, some e => .err e
    | o, _ => o
  match o, s.onErr with
  | .err _, some r => ofOption r
  | o, _ => o

/-- The way out; a panic passes without a trace. -/
def leave (name : String) (s : ProcessorScript) (o : Result) (c : Call World) :
    Result × Call World :=
  match o with
  | .panic p => (.panic p, c)
  | o =>
    let c := note c (name ++ ":after " ++ resultText o ++ " " ++ c.status.text)
    (replaced s o, insertInto c s.insertAfter)

def remainingText (n : Nat) : String :=
  "Next \x7b remaining: " ++ Numeral.text n ++ ", .. \x7d"

def processorOf (name : String) (s : ProcessorScript) : Processor World String :=
  fun _ remaining c =>
    let c := note c (name ++ ":before remaining=" ++ Numeral.text remaining ++ " "
      ++ c.status.text ++ " " ++ remainingText remaining)
    let c := insertInto c s.insertBefore
    let c := unregistering name (registering name c s.register) s.unregister
    match s.stop with
    | some r =>
      let r := leave name s (ofOption r) c
      (.stop r.1, r.2)
    | none => (.proceed (leave name s), c)

def noScript : ProcessorScript := ⟨none, none, none, none, none, none, none⟩

/-- A name without a script lets everything pass. -/
def behaviour (scripts : Record ProcessorScript) (name : String) : Processor World String :=
  processorOf name ((scripts.get? name).getD noScript)

/-- How a handler ends when nothing has ended it before. -/
def ending (s : HandlerScript) : Result :=
  match s.panic, s.fail with
  | some p, _ => .panic p
  | none, some e => .err e
  | none, none => .ok

/-- The handler of a script; the first of `nested` is the call that it makes, the others are
those that its handler makes in turn. -/
def handlerOf (s : HandlerScript) : List ScriptedCall → Handler World String
  | [] => fun service c =>
    let c := begun s service c
    (ending s, c)
  | n :: nested => fun service c =>
    let c := begun s service c
    let r := Chain.call World.chain (behaviour c.world.scripts) (handlerOf n.handler nested)
      n.service n.pipeline c.world
    let c := { c with world := r.2.2 }
    match r.1 with
    | .panic p => (.panic p, c)
    | o =>
      let c := note c ("nested " ++ resultText o)
      match o, s.propagate with
      | .err e, true => (.err e, c)
      | _, _ => (ending s, c)
where
  begun (s : HandlerScript) (service : ServiceDescriptor) (c : Call World) : Call World :=
    let c := note c ("handler " ++ service.name.text ++ " " ++ service.package.text ++ " "
      ++ c.status.text)
    let c := insertInto c s.insert
    match s.remove with
    | none => c
    | some k => { c with pipeline := c.pipeline.erase k }

/-- A call through the chain that is installed, with a status that stays visible. -/
def invoke (s : ScriptedCall) (nested : List ScriptedCall) (status : Status) (w : World) :
    Result × Call World :=
  Chain.invoke World.chain (behaviour w.scripts) (handlerOf s.handler nested) s.service
    ⟨s.pipeline, status, w⟩

/-- A run through the processors of the given names, which leaves the status as it is. -/
def through (names : List String) (s : ScriptedCall) (nested : List ScriptedCall)
    (status : Status) (w : World) : Result × Call World :=
  Processor.run s.service (handlerOf s.handler nested) (names.map (behaviour w.scripts))
    ⟨s.pipeline, status, w⟩

end CallWatch.Script
