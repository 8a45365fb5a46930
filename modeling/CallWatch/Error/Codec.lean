import CallWatch.Error
import CallWatch.Json.Document
import CallWatch.Json.Printer

/-!
Error envelopes as they are stored and sent. Details are left out when there are none.
-/

namespace CallWatch

def ErrorKind.variant : ErrorKind → String
  | .expected => "Expected"
  | .invariant => "Invariant"
  | .unexpected => "Unexpected"

def ErrorKind.named? : String → Option ErrorKind
  | "Expected" => some .expected
  | "Invariant" => some .invariant
  | "Unexpected" => some .unexpected
  | _ => none

def Retry.variant : Retry → String
  | .retriable => "Retriable"
  | .nonRetriable => "NonRetriable"

def Retry.named? : String → Option Retry
  | "Retriable" => some .retriable
  | "NonRetriable" => some .nonRetriable
  | _ => none

namespace ErrorCode

def toJson (c : ErrorCode) : Json := .obj [("namespace", .str c.space), ("code", .str c.name)]

def shape : Document.Shape := ⟨["namespace", "code"], false⟩

def ofDocument? (d : Dialect) (v : Document) : Option ErrorCode := do
  let fields ← v.fields? d shape
  let space ← Document.field? Document.text? fields "namespace"
  let name ← Document.field? Document.text? fields "code"
  pure ⟨space, name⟩

end ErrorCode

namespace Details

def toJson (d : Details) : Json := .obj (d.entries.map fun e => (e.1, .str e.2))

def entry? (f : String × Document) : Option (String × String) := f.2.text?.map fun s => (f.1, s)

/-- Details that are there twice take the last value. -/
def ofDocument? : Document → Option Details
  | .record fields => (fields.mapM entry?).map ofPairs
  | _ => none

end Details

namespace Envelope

def toJson (e : Envelope) : Json := .obj (
  [("kind", .str e.kind.variant),
    ("class", .str e.retry.variant),
    ("code", e.code.toJson),
    ("message", .str e.message)]
  ++ if e.details.isEmpty then [] else [("metadata", e.details.toJson)])

def shape : Document.Shape := ⟨["kind", "class", "code", "message", "metadata"], false⟩

def ofDocument? (d : Dialect) (v : Document) : Option Envelope := do
  let fields ← v.fields? d shape
  let kind ← Document.field? (Document.variant? d ErrorKind.named?) fields "kind"
  let retry ← Document.field? (Document.variant? d Retry.named?) fields "class"
  let code ← Document.field? (ErrorCode.ofDocument? d) fields "code"
  let message ← Document.field? Document.text? fields "message"
  let details ← Document.optional? Details.ofDocument? .empty fields "metadata"
  pure ⟨kind, retry, code, message, details⟩

end Envelope

end CallWatch
