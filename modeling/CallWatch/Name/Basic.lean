import CallWatch.Error
import CallWatch.Text.Blank
import CallWatch.Text.Numeral

/-!
Names of packages, sessions and users.

A name is any text that is not blank, without the blanks around it. Names of different kinds
are of different types.
-/

namespace CallWatch

open CallWatch.Text

inductive NameKind where
  | service
  | package
  | session
  | user
  deriving DecidableEq

def NameKind.word : NameKind → String
  | .service => "ServiceName"
  | .package => "PackageName"
  | .session => "SessionId"
  | .user => "UserName"

def NameKind.code : NameKind → ErrorCode
  | .service => ⟨"domain", "invalid_service_name"⟩
  | .package => ⟨"domain", "invalid_package_name"⟩
  | .session => ⟨"domain", "invalid_session_id"⟩
  | .user => ⟨"domain", "invalid_user_name"⟩

inductive NameError where
  | blank (kind : NameKind) (bytes : Nat)
  | malformedService (input : String)
  deriving DecidableEq

namespace NameError

def message : NameError → String
  | blank k _ => k.word ++ " must be non-empty"
  | malformedService _ => "ServiceName must look like `folder.subfolder:service`"

def envelope (e : NameError) : Envelope :=
  match e with
  | blank k bytes => (Envelope.expected k.code e.message).noting "input_length" (Numeral.text bytes)
  | malformedService input =>
    (Envelope.expected NameKind.service.code e.message).noting "input" input

end NameError

structure Label (kind : NameKind) where
  text : String
  nonempty : text ≠ ""
  trimmed : trim text = text
  deriving DecidableEq

abbrev PackageName := Label .package
abbrev SessionId := Label .session
abbrev UserName := Label .user

/-- The name in a text; a blank text is refused with its length in bytes. -/
def Label.parse (kind : NameKind) (input : String) : Except NameError (Label kind) :=
  if h : trim input = "" then .error (.blank kind input.utf8ByteSize)
  else .ok ⟨trim input, h, trim_trim input⟩

theorem Label.ext_text {kind : NameKind} {a b : Label kind} (h : a.text = b.text) : a = b := by
  cases a; cases b; simp_all

end CallWatch
