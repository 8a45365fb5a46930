import CallWatch.Number.Binary64
import CallWatch.Record

/-!
JSON values.

Objects keep the order of their entries. Whole numbers and binary fractions are different
values even where they denote the same number; `same` compares values as data, with no
regard to the order of an object's entries.
-/

namespace CallWatch

inductive Json where
  | null
  | bool (b : Bool)
  | int (n : Int)
  | float (x : Binary64)
  | str (s : String)
  | arr (items : List Json)
  | obj (fields : List (String × Json))

namespace Json

instance : Inhabited Json := ⟨null⟩

def nat (n : Nat) : Json := int n

/-- The word for the kind of a value. -/
def kind : Json → String
  | null => "null"
  | bool _ => "boolean"
  | int _ | float _ => "number"
  | str _ => "string"
  | arr _ => "array"
  | obj _ => "object"

mutual

def same : Json → Json → Bool
  | null, null => true
  | bool a, bool b => a == b
  | int a, int b => a == b
  | float a, float b => a.sameValue b
  | str a, str b => a == b
  | arr xs, arr ys => sameItems xs ys
  | obj xs, obj ys => xs.length == ys.length && sameFields xs ys
  | _, _ => false

def sameItems : List Json → List Json → Bool
  | [], [] => true
  | x :: xs, y :: ys => same x y && sameItems xs ys
  | _, _ => false

def sameFields : List (String × Json) → List (String × Json) → Bool
  | [], _ => true
  | (k, v) :: rest, ys =>
    (match Record.get? ys k with
      | some w => same v w
      | none => false) && sameFields rest ys

end

end Json

end CallWatch
