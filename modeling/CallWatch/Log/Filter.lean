import CallWatch.Log.Event
import CallWatch.Log.Pattern
import CallWatch.Text.Bytes
import CallWatch.Text.Pieces

/-!
Filters for log events.

A filter is a list of directives such as `info`, `app::db=debug` or `[span{field}]=trace`.
Of the directives that apply to an event the most specific one decides: the one with the
longest target, then the one with the most fields. Spans are never open here, so a directive
for one applies to nothing.

A directive is read without the blanks around it, but its parts are cut from the whole text
at the places where they were found. So blanks behind belong to the last part, and blanks in
front move every part.
-/

namespace CallWatch

open CallWatch.Text

/-- How much passes; none for nothing at all. -/
abbrev Threshold := Option LogLevel

def Threshold.passes (t : Threshold) (l : LogLevel) : Bool :=
  match t with
  | none => false
  | some m => l.rank ≤ m.rank

/-- A level by its name in any case or by its number. -/
def Threshold.read? (s : List Char) : Option Threshold :=
  match Numeral.natural? s with
  | some 0 => some none
  | some n => (LogLevel.all.find? fun l => l.rank == n).map some
  | none =>
    let word := lower (String.ofList s)
    if word = "off" then some none else (LogLevel.named? word).map some

structure Directive where
  target : Option String
  /-- What an event has to carry. -/
  fields : List String
  threshold : Threshold
  /-- It is for a span or for the value of a field, and so for nothing here. -/
  inert : Bool

inductive FilterError where
  | malformed
  | level
  /-- The value of a field is neither a plain value nor a pattern. -/
  | pattern (f : Pattern.Fault)
  deriving DecidableEq

def FilterError.message : FilterError → String
  | malformed => "invalid filter directive"
  | level =>
    "error parsing level filter: expected one of \"off\", \"error\", \"warn\", \"info\", "
      ++ "\"debug\", \"trace\", or a number 0-5"
  | pattern f => "invalid field filter: " ++ f.message

namespace Directive

/-! ### Reading -/

/-- Where the reader stands in a directive; a part is known by the place of its first byte. -/
inductive Mode where
  | start
  | name (first : Nat)
  | span (first : Nat)
  | field (first : Nat)
  | fields
  | target
  | level (first : Nat)

structure Draft where
  directive : Directive
  mode : Mode
  /-- How many bytes have been read. -/
  position : Nat

def everything : Directive := ⟨none, [], some .trace, false⟩

def isNameStart (c : Char) : Bool := c = '-' || c = ':' || c = '_' || isAlphanumeric c

/-- A part of the whole text. -/
def part (whole : List Char) (first last : Nat) : Except FilterError (List Char) :=
  match slice? first last whole with
  | some cs => .ok cs
  | none => .error .malformed

def withTarget (d : Directive) (name : List Char) : Directive :=
  { d with target := some (String.ofList name) }

/-- A field, which may have a value; what follows a second equals sign does not count. -/
def withField (d : Directive) (field : List Char) : Except FilterError Directive :=
  let add (name : List Char) := d.fields ++ [String.ofList name]
  match pieces '=' field with
  | name :: value :: _ =>
    match if Pattern.isNumber value then none else Pattern.fault? value with
    | none => .ok { d with fields := add name, inert := true }
    | some f => .error (.pattern f)
  | _ => if field.isEmpty then .error .malformed else .ok { d with fields := add field }

def step (whole : List Char) (s : Draft) (c : Char) : Except FilterError Draft := do
  let d := s.directive
  let next := s.position + c.utf8Size
  let from? (first : Nat) := part whole first s.position
  match s.mode with
  | .start =>
    if c = '[' then pure ⟨d, .span next, next⟩
    else if isNameStart c then pure ⟨d, .name s.position, next⟩
    else throw .malformed
  | .name first =>
    if c = '=' then pure ⟨d.withTarget (← from? first), .level next, next⟩
    else if c = '[' then pure ⟨d.withTarget (← from? first), .span next, next⟩
    else pure ⟨d, .name first, next⟩
  | .span first =>
    if c = ']' then
      let _ ← from? first
      pure ⟨{ d with inert := true }, .target, next⟩
    else if c = '\x7b' then
      pure ⟨{ d with inert := !(← from? first).isEmpty }, .field next, next⟩
    else pure ⟨d, .span first, next⟩
  | .field first =>
    if c = '\x7d' then pure ⟨← d.withField (← from? first), .fields, next⟩
    else pure ⟨d, .field first, next⟩
  | .fields => if c = ']' then pure ⟨d, .target, next⟩ else throw .malformed
  | .target => if c = '=' then pure ⟨d, .level next, next⟩ else throw .malformed
  | .level first => pure ⟨d, .level first, next⟩

def finish (whole : List Char) (s : Draft) : Except FilterError Directive := do
  let d := s.directive
  match s.mode with
  | .name first =>
    let name ← part whole first (byteLength whole)
    match Threshold.read? name with
    | some t => pure { d with threshold := t }
    | none => pure (d.withTarget name)
  | .level first =>
    let name ← part whole first (byteLength whole)
    match Threshold.read? name with
    | some t => pure { d with threshold := t }
    | none => if name.isEmpty then pure d else throw .level
  | .target => pure d
  | _ => throw .malformed

def read (cs : List Char) : Except FilterError Directive := do
  let s ← (trimChars cs).foldlM (step cs) ⟨everything, .start, 0⟩
  finish cs s

/-! ### Applying -/

def appliesTo (d : Directive) (e : LogEvent) : Bool :=
  !d.inert && d.fields.all e.fieldNames.contains &&
    match d.target with
    | none => true
    | some t => t.toList.isPrefixOf e.target.toList

def targetSize (d : Directive) : Nat :=
  match d.target with
  | none => 0
  | some t => t.length + 1

/-- Whether `a` goes before `b` where both apply to one event. -/
def outranks (a b : Directive) : Bool :=
  decide (b.targetSize < a.targetSize ∨ b.targetSize = a.targetSize ∧
    (b.fields.length < a.fields.length ∨
      b.fields.length = a.fields.length ∧ b.fields < a.fields))

end Directive

abbrev LogFilter := List Directive

namespace LogFilter

/-- The environment variable that may hold directives. -/
def variableName : String := "RUST_LOG"

/-- Directives between commas; empty pieces do not count. -/
def read (s : String) : Except FilterError LogFilter :=
  ((pieces ',' s.toList).filter (!·.isEmpty)).mapM Directive.read

/-- The directive that decides on an event; of equals the last one. -/
def deciding? (f : LogFilter) (e : LogEvent) : Option Directive :=
  (f.filter (·.appliesTo e)).foldl (fun best d =>
    match best with
    | none => some d
    | some b => if b.outranks d then best else some d) none

def passes (f : LogFilter) (e : LogEvent) : Bool :=
  match f.deciding? e with
  | none => false
  | some d => d.threshold.passes e.level

end LogFilter

/-- The directives in effect: those that a variable holds, unless it is unset or blank, or
else the configured level. -/
def filterDirectives (level : String) (value : Option String) : String :=
  match value.map trim with
  | none => level
  | some s => if s = "" then level else s

end CallWatch
