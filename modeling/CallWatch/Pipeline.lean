import CallWatch.Error
import CallWatch.Json.Basic

/-!
Pipelines: the documents that calls read and write.

A pipeline is a record of JSON values with each name once. Names keep the order of their
first insertion; a name that is inserted again keeps its place.
-/

namespace CallWatch

structure Pipeline where
  entries : Record Json
  nodup : entries.keys.Nodup

namespace Pipeline

instance : Inhabited Pipeline := ⟨⟨[], List.nodup_nil⟩⟩

def empty : Pipeline := ⟨[], List.nodup_nil⟩

def ofPairs (pairs : List (String × Json)) : Pipeline :=
  ⟨Record.ofPairs pairs, Record.nodup_ofPairs pairs⟩

def keys (p : Pipeline) : List String := p.entries.keys

def size (p : Pipeline) : Nat := p.entries.length

def isEmpty (p : Pipeline) : Bool := p.entries.isEmpty

def get? (p : Pipeline) (k : String) : Option Json := p.entries.get? k

def insert (p : Pipeline) (k : String) (v : Json) : Pipeline :=
  ⟨p.entries.insert k v, Record.nodup_insert k v p.nodup⟩

def erase (p : Pipeline) (k : String) : Pipeline :=
  ⟨p.entries.erase k, Record.nodup_erase k p.nodup⟩

/-- A value that is there is replaced by what `f` makes of it. -/
def modify (p : Pipeline) (k : String) (f : Json → Json) : Pipeline :=
  match p.get? k with
  | some v => p.insert k (f v)
  | none => p

def toJson (p : Pipeline) : Json := .obj p.entries

/-- Equality of documents, whatever the order of their entries. -/
def same (p q : Pipeline) : Bool := p.toJson.same q.toJson

theorem ext_entries {p q : Pipeline} (h : p.entries = q.entries) : p = q := by
  cases p; cases q; simp_all

end Pipeline

/-- A value that is no object is no pipeline. -/
structure NotDocument where
  found : String

def NotDocument.message (e : NotDocument) : String :=
  "Pipeline must be a JSON object, found " ++ e.found

def NotDocument.envelope (e : NotDocument) : Envelope :=
  (Envelope.expected ⟨"domain", "invalid_pipeline"⟩ e.message).noting "found" e.found

def Pipeline.ofJson : Json → Except NotDocument Pipeline
  | .obj fields => .ok (.ofPairs fields)
  | v => .error ⟨v.kind⟩

end CallWatch
