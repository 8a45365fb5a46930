import CallWatch.Document
import CallWatch.Json.Tree

/-!
JSON texts as documents.

A literal without a value spoils only the leaf that it stands for, and an object only if one
of its names has no value, so what is not asked for may be anything that is well formed.
-/

namespace CallWatch

/-- Null stands for the content that a variant does not have, and a list ends with the last
field. -/
def Dialect.json : Dialect where
  isUnit v := match v with
    | .null => true
    | _ => false
  surplus := false

namespace Json

def NumberLiteral.toDocument (n : NumberLiteral) : Document :=
  match n.value? with
  | some (.int k) => .int k
  | _ => .other

mutual

def Tree.toDocument : Tree → Document
  | .null => .null
  | .bool b => .bool b
  | .number n => n.toDocument
  | .string s => match s.text? with
    | some t => .text t
    | none => .other
  | .arr xs => .list (Tree.itemDocuments xs)
  | .obj kvs => match Tree.fieldDocuments? kvs with
    | some fs => .record fs
    | none => .other

def Tree.itemDocuments : List Tree → List Document
  | [] => []
  | t :: ts => t.toDocument :: Tree.itemDocuments ts

def Tree.fieldDocuments? : List (StringLiteral × Tree) → Option (List (String × Document))
  | [] => some []
  | (k, t) :: ts => match k.text?, Tree.fieldDocuments? ts with
    | some k, some fs => some ((k, t.toDocument) :: fs)
    | _, _ => none

end

/-- The document of a JSON text. -/
def document? (s : String) : Option Document := (Tree.read? s.toList).map Tree.toDocument

end Json

end CallWatch
