import CallWatch.Toml.Scalar
import CallWatch.Toml.Table
import CallWatch.Toml.Token

/-!
The statements of a TOML text: headers, and names with their values.

They are read from the tokens in one pass. The reader holds the containers of the value that
it is in, and what it expects next; an unquoted value may be made of several words, points
and blanks, so its end shows only at the token after it. Containers nest only so deep, and a
name has only so many parts.
-/

namespace CallWatch.Toml

inductive Statement where
  | header (path : List String) (ofList : Bool)
  | assign (name : List String) (v : Document)

/-- Where a name stands: at the start of a line, in a header, or in an inline table. -/
inductive Site where
  | line
  | header (ofList : Bool)
  | field
  deriving DecidableEq

/-- What may come next; the parts of a name are in reverse order. -/
inductive Expect where
  | line
  | lineEnd
  | header
  | headerEnd (parts : List String)
  | name (s : Site) (parts : List String)
  | nameEnd (s : Site) (parts : List String)
  /-- After the name of a field and the end of its line. -/
  | equals (parts : List String)
  | value
  | scalar (seen : List Char)
  /-- After blanks that belong to the value if a word follows. -/
  | scalarGap (seen blanks : List Char)
  | itemOrEnd
  | itemEnd
  | fieldOrEnd
  | fieldEnd

/-- An open list, in reverse order, or an open inline table with the name whose value is
being read. -/
inductive Open where
  | items (xs : List Document)
  | fields (fs : Fields) (name : List String)

structure Reader where
  /-- In reverse order. -/
  statements : List Statement
  stack : List Open
  /-- The name that the statement gives a value to. -/
  name : List String
  expect : Expect

namespace Reader

/-- How deep containers nest, and how many parts a name has, at most. -/
def limit : Nat := 80

def init : Reader := ⟨[], [], [], .line⟩

def expecting (r : Reader) (e : Expect) : Reader := { r with expect := e }

/-- A finished value goes where it belongs. -/
def give (r : Reader) (v : Document) : Option Reader :=
  match r.stack with
  | [] => some { r with statements := .assign r.name v :: r.statements, expect := .lineEnd }
  | .items xs :: s => some { r with stack := .items (v :: xs) :: s, expect := .itemEnd }
  | .fields fs name :: s =>
    (Fields.assign v name fs).map fun fs =>
      { r with stack := .fields fs [] :: s, expect := .fieldEnd }

def endList (r : Reader) : Option Reader :=
  match r.stack with
  | .items xs :: s => give { r with stack := s } (.list xs.reverse)
  | _ => none

def endTable (r : Reader) : Option Reader :=
  match r.stack with
  | .fields fs _ :: s => give { r with stack := s } fs.toDocument
  | _ => none

def isBareNameChar (c : Char) : Bool := c.isAlphanum || c = '_' || c = '-'

def addPart (r : Reader) (s : Site) (parts : List String) (cs : List Char) : Option Reader :=
  if parts.length < limit then some (r.expecting (.nameEnd s (String.ofList cs :: parts)))
  else none

def namePart (r : Reader) (s : Site) (parts : List String) : Token → Option Reader
  | .blank _ => some (r.expecting (.name s parts))
  | .word cs => if cs.all isBareNameChar then r.addPart s parts cs else none
  | .text cs true => r.addPart s parts cs
  | _ => none

/-- The end of a name before its value. -/
def named (r : Reader) (s : Site) (parts : List String) : Option Reader :=
  match s, r.stack with
  | .line, _ => some { r with name := parts.reverse, expect := .value }
  | .field, .fields fs _ :: rest =>
    some { r with stack := .fields fs parts.reverse :: rest, expect := .value }
  | _, _ => none

def headed (r : Reader) (ofList : Bool) (parts : List String) : Reader :=
  { r with statements := .header parts.reverse ofList :: r.statements, expect := .lineEnd }

def afterName (r : Reader) (s : Site) (parts : List String) : Token → Option Reader
  | .blank _ => some r
  | .dot => some (r.expecting (.name s parts))
  | .equals => r.named s parts
  | .endList => match s with
    | .header false => some (r.headed false parts)
    | .header true => some (r.expecting (.headerEnd parts))
    | _ => none
  | .newline => if s = .field then some (r.expecting (.equals parts)) else none
  | _ => none

/-- A token between the name of a field and its value. -/
def beforeEquals (r : Reader) (parts : List String) : Token → Option Reader
  | .blank _ => some r
  | .newline => some r
  | .equals => r.named .field parts
  | _ => none

def enter (r : Reader) (o : Open) (e : Expect) : Option Reader :=
  if r.stack.length < limit then some { r with stack := o :: r.stack, expect := e } else none

/-- A value may begin on a later line only inside a container. -/
def startValue (r : Reader) : Token → Option Reader
  | .blank _ => some r
  | .newline => if r.stack.isEmpty then none else some r
  | .text cs _ => r.give (.text (String.ofList cs))
  | .word cs => some (r.expecting (.scalar cs))
  | .beginList => r.enter (.items []) .itemOrEnd
  | .beginTable => r.enter (.fields [] []) .fieldOrEnd
  | _ => none

/-- A token after a finished value. -/
def afterValue (r : Reader) (t : Token) : Option Reader :=
  match r.expect, t with
  | _, .blank _ => some r
  | .lineEnd, .newline => some (r.expecting .line)
  | .itemEnd, .newline => some r
  | .itemEnd, .comma => some (r.expecting .itemOrEnd)
  | .itemEnd, .endList => r.endList
  | .fieldEnd, .newline => some r
  | .fieldEnd, .comma => some (r.expecting .fieldOrEnd)
  | .fieldEnd, .endTable => r.endTable
  | _, _ => none

def giveScalar (r : Reader) (seen : List Char) : Option Reader := (scalar? seen).bind r.give

def step (r : Reader) (t : Token) : Option Reader :=
  match r.expect, t with
  | .line, .newline => some r
  | .line, .blank _ => some r
  | .line, .beginList => some (r.expecting .header)
  | .line, t => r.namePart .line [] t
  | .header, .beginList => some (r.expecting (.name (.header true) []))
  | .header, t => r.namePart (.header false) [] t
  | .headerEnd parts, .endList => some (r.headed true parts)
  | .headerEnd _, _ => none
  | .name s parts, t => r.namePart s parts t
  | .nameEnd s parts, t => r.afterName s parts t
  | .equals parts, t => r.beforeEquals parts t
  | .value, t => r.startValue t
  | .scalar seen, .word cs => some (r.expecting (.scalar (seen ++ cs)))
  | .scalar seen, .dot => some (r.expecting (.scalar (seen ++ ['.'])))
  | .scalar seen, .blank cs => some (r.expecting (.scalarGap seen cs))
  | .scalar seen, t => (r.giveScalar seen).bind fun r => r.afterValue t
  | .scalarGap seen blanks, .word cs => some (r.expecting (.scalar (seen ++ blanks ++ cs)))
  | .scalarGap seen _, t => (r.giveScalar seen).bind fun r => r.afterValue t
  | .itemOrEnd, .endList => r.endList
  | .itemOrEnd, t => r.startValue t
  | .fieldOrEnd, .newline => some r
  | .fieldOrEnd, .blank _ => some r
  | .fieldOrEnd, .endTable => r.endTable
  | .fieldOrEnd, t => r.namePart .field [] t
  | _, t => r.afterValue t

def run (r : Reader) (ts : List Token) : Option Reader := ts.foldlM step r

/-- The statements in order, unless the text ends inside one. -/
def finish? (r : Reader) : Option (List Statement) :=
  match r.expect with
  | .line | .lineEnd => some r.statements.reverse
  | .scalar seen | .scalarGap seen _ =>
    if r.stack.isEmpty then (r.giveScalar seen).map fun r => r.statements.reverse else none
  | _ => none

end Reader

def statements? (cs : List Char) : Option (List Statement) :=
  ((tokens? cs).bind (Reader.run Reader.init)).bind Reader.finish?

/-- The tables so far and the path of the latest header. -/
structure Sheet where
  fields : Fields
  path : List String

def Sheet.step (s : Sheet) : Statement → Option Sheet
  | .header path ofList => (s.fields.head ofList path).map fun fs => ⟨fs, path⟩
  | .assign name v => (s.fields.assignAt v name s.path).map fun fs => ⟨fs, s.path⟩

def ofStatements? (ss : List Statement) : Option Document :=
  (ss.foldlM Sheet.step ⟨[], []⟩).map fun s => s.fields.toDocument

/-- The document of a TOML text. -/
def document? (s : String) : Option Document := (statements? s.toList).bind ofStatements?

end CallWatch.Toml

namespace CallWatch

/-- An empty list or table stands for the content that a variant does not have, and a list
may go on after the last field. -/
def Dialect.toml : Dialect where
  isUnit v := match v with
    | .list [] => true
    | .record [] => true
    | _ => false
  surplus := true

end CallWatch
