import CallWatch.Json.Document
import CallWatch.Json.Printer
import CallWatch.Name.Service

/-!
Names as they are stored and sent.

A name is stored as its text and read by parsing, so that no stored text gets past the rules
for names. A descriptor and a state are stored as their parts.
-/

namespace CallWatch

def ServiceName.toJson (n : ServiceName) : Json := .str n.text

def ServiceName.ofDocument? (v : Document) : Option ServiceName :=
  v.text?.bind fun s => (ServiceName.parse s).toOption

def Label.toJson {kind : NameKind} (l : Label kind) : Json := .str l.text

def Label.ofDocument? (kind : NameKind) (v : Document) : Option (Label kind) :=
  v.text?.bind fun s => (Label.parse kind s).toOption

def ServiceDescriptor.toJson (d : ServiceDescriptor) : Json :=
  .obj [("name", d.name.toJson), ("package", d.package.toJson)]

def ServiceDescriptor.shape : Document.Shape := ⟨["name", "package"], false⟩

def ServiceDescriptor.ofDocument? (d : Dialect) (v : Document) : Option ServiceDescriptor := do
  let fields ← v.fields? d shape
  let name ← Document.field? ServiceName.ofDocument? fields "name"
  let package ← Document.field? (Label.ofDocument? .package) fields "package"
  pure ⟨name, package⟩

def InvokeState.toJson (s : InvokeState) : Json :=
  .obj [("session", s.session.toJson), ("user", s.user.toJson)]

def InvokeState.shape : Document.Shape := ⟨["session", "user"], false⟩

def InvokeState.ofDocument? (d : Dialect) (v : Document) : Option InvokeState := do
  let fields ← v.fields? d shape
  let session ← Document.field? (Label.ofDocument? .session) fields "session"
  let user ← Document.field? (Label.ofDocument? .user) fields "user"
  pure ⟨session, user⟩

end CallWatch
