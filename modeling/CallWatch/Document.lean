import CallWatch.Record

/-!
Structured documents and how values are read from them.

A document is what the formats for settings and records have in common. A structure with
named fields is read from a record or from a list of its fields in order; `Dialect` holds
what the formats disagree on.
-/

namespace CallWatch

inductive Document where
  | null
  | bool (b : Bool)
  | int (n : Int)
  | text (s : String)
  /-- A scalar of another kind, or one that has no value. -/
  | other
  | list (items : List Document)
  /-- Every field as written; a name may be there twice. -/
  | record (fields : List (String × Document))

/-- What a format decides about structures. -/
structure Dialect where
  /-- The document that stands for a variant without content. -/
  isUnit : Document → Bool
  /-- Whether the list form may go on after the last field. -/
  surplus : Bool

namespace Document

/-! ### Leaves -/

def bool? : Document → Option Bool
  | bool b => some b
  | _ => none

def text? : Document → Option String
  | text s => some s
  | _ => none

/-- A whole number below 2^32. -/
def word? : Document → Option UInt32
  | int n => if 0 ≤ n ∧ n < UInt32.size then some (.ofNat n.toNat) else none
  | _ => none

/-- One of several variants without content: its name, or a record of that name alone. -/
def variant? {α : Type} (d : Dialect) (named? : String → Option α) : Document → Option α
  | text s => named? s
  | record [(k, v)] => if d.isUnit v then named? k else none
  | _ => none

/-- A leaf that may be null. -/
def nullable? {α : Type} (read? : Document → Option α) : Document → Option (Option α)
  | null => some none
  | v => (read? v).map some

/-! ### Structures -/

/-- Which names a structure has, and whether it refuses all others. -/
structure Shape where
  names : List String
  closed : Bool

/-- The known fields of a record, unless one of them is there twice or a closed shape meets
an unknown one. -/
def Shape.ofRecord? (s : Shape) (fields : List (String × Document)) :
    Option (Record Document) :=
  let known := fields.filter fun f => s.names.contains f.1
  if (s.closed && known.length != fields.length) || !(decide (known.map Prod.fst).Nodup) then none
  else some known

/-- The fields of a structure by name. -/
def fields? (d : Dialect) (s : Shape) : Document → Option (Record Document)
  | record fields => s.ofRecord? fields
  | list items =>
    if items.length ≤ s.names.length || d.surplus then some (s.names.zip items) else none
  | _ => none

/-- A field that has to be there. -/
def field? {α : Type} (read? : Document → Option α) (fields : Record Document) (name : String) :
    Option α :=
  (fields.get? name).bind read?

/-- A field that may be missing. -/
def optional? {α : Type} (read? : Document → Option α) (absent : α) (fields : Record Document)
    (name : String) : Option α :=
  match fields.get? name with
  | none => some absent
  | some v => read? v

end Document

end CallWatch
