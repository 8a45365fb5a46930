import CallWatch.Json.Token

/-!
The structure of a JSON text.

A tree has the containers of the text and its literals as written; repeated names of an
object are all there. It is built from the tokens by one pass with a stack of the containers
that are open. `value?` gives a tree its meaning as a `Json` value.
-/

namespace CallWatch.Json

inductive Tree where
  | null
  | bool (b : Bool)
  | number (n : NumberLiteral)
  | string (s : StringLiteral)
  | arr (items : List Tree)
  | obj (fields : List (StringLiteral × Tree))

namespace Tree

/-- An open container with what it holds so far, in reverse order. -/
inductive Open where
  | items (xs : List Tree)
  | fields (xs : List (StringLiteral × Tree)) (name : StringLiteral)

/-- What may come next. -/
inductive Expect where
  | value
  | itemOrEnd
  | name
  | nameOrEnd
  | colon
  | separator
  deriving DecidableEq

structure Builder where
  stack : List Open
  expect : Expect
  result : Option Tree

def Builder.init : Builder := ⟨[], .value, none⟩

/-- A finished value goes into the innermost open container. -/
def Builder.give (b : Builder) (t : Tree) : Builder :=
  match b.stack with
  | [] => ⟨[], .separator, some t⟩
  | .items xs :: s => ⟨.items (t :: xs) :: s, .separator, b.result⟩
  | .fields xs k :: s => ⟨.fields ((k, t) :: xs) [] :: s, .separator, b.result⟩

def Builder.push (b : Builder) (o : Open) (e : Expect) : Builder := ⟨o :: b.stack, e, b.result⟩

def Builder.endArr? (b : Builder) : Option Builder :=
  match b.stack with
  | .items xs :: s => some (Builder.give ⟨s, .separator, b.result⟩ (.arr xs.reverse))
  | _ => none

def Builder.endObj? (b : Builder) : Option Builder :=
  match b.stack with
  | .fields xs _ :: s => some (Builder.give ⟨s, .separator, b.result⟩ (.obj xs.reverse))
  | _ => none

/-- A token where a value may start. -/
def Builder.value? (b : Builder) : Token → Option Builder
  | .null => some (b.give .null)
  | .bool v => some (b.give (.bool v))
  | .number n => some (b.give (.number n))
  | .string s => some (b.give (.string s))
  | .beginArr => some (b.push (.items []) .itemOrEnd)
  | .beginObj => some (b.push (.fields [] []) .nameOrEnd)
  | _ => none

def Builder.name? (b : Builder) : Token → Option Builder
  | .string k => match b.stack with
    | .fields xs _ :: s => some ⟨.fields xs k :: s, .colon, b.result⟩
    | _ => none
  | _ => none

def Builder.step (b : Builder) (t : Token) : Option Builder :=
  match b.expect with
  | .value => b.value? t
  | .itemOrEnd => match t with
    | .endArr => b.endArr?
    | t => b.value? t
  | .name => b.name? t
  | .nameOrEnd => match t with
    | .endObj => b.endObj?
    | t => b.name? t
  | .colon => match t with
    | .colon => some { b with expect := .value }
    | _ => none
  | .separator => match t with
    | .comma => match b.stack with
      | [] => none
      | .items _ :: _ => some { b with expect := .value }
      | .fields _ _ :: _ => some { b with expect := .name }
    | .endArr => b.endArr?
    | .endObj => b.endObj?
    | _ => none

def Builder.run (b : Builder) (ts : List Token) : Option Builder := ts.foldlM Builder.step b

def ofTokens? (ts : List Token) : Option Tree :=
  match Builder.init.run ts with
  | some ⟨[], .separator, some t⟩ => some t
  | _ => none

def read? (cs : List Char) : Option Tree := (tokens? cs).bind ofTokens?

mutual

/-- The value of a tree with at most `depth` containers open at a time. A name that is
repeated in an object keeps its first place and takes its last value. -/
def value? (depth : Nat) : Tree → Option Json
  | null => some .null
  | bool b => some (.bool b)
  | number n => n.value?
  | string s => s.text?.map .str
  | arr xs => match depth with
    | 0 => none
    | d + 1 => (itemValues? d xs).map .arr
  | obj kvs => match depth with
    | 0 => none
    | d + 1 => (fieldValues? d kvs).map fun fs => .obj (Record.ofPairs fs)

def itemValues? (depth : Nat) : List Tree → Option (List Json)
  | [] => some []
  | t :: ts => match value? depth t, itemValues? depth ts with
    | some v, some vs => some (v :: vs)
    | _, _ => none

def fieldValues? (depth : Nat) : List (StringLiteral × Tree) → Option (List (String × Json))
  | [] => some []
  | (k, t) :: ts => match k.text?, value? depth t, fieldValues? depth ts with
    | some k, some v, some vs => some ((k, v) :: vs)
    | _, _, _ => none

end

end Tree

/-- The number of containers that may be open at a time. -/
def maxDepth : Nat := 127

/-- The value of a JSON text. -/
def read? (s : String) : Option Json := (Tree.read? s.toList).bind (Tree.value? maxDepth)

end CallWatch.Json
