import CallWatch.Name.Basic
import CallWatch.Text.Bytes
import CallWatch.Text.Letter
import CallWatch.Text.Pieces

/-!
Service names: an interface of segments joined by points, a colon, and a local name.

A segment starts with a letter or an underscore and goes on with letters, digits and the
characters `_`, `-` and `$`, so neither a point nor a colon can be inside one.
-/

namespace CallWatch

open CallWatch.Text

namespace ServiceName

def isSegmentStart (c : Char) : Bool := isAlphabetic c || c = '_'

def isSegmentChar (c : Char) : Bool := isAlphanumeric c || c = '_' || c = '-' || c = '$'

def isSegment : List Char → Bool
  | [] => false
  | c :: cs => isSegmentStart c && cs.all isSegmentChar

/-- Segments joined by points. -/
def isInterface (cs : List Char) : Bool := !cs.isEmpty && (pieces '.' cs).all isSegment

/-- Where a text has its colon, if it is a name. The text is parted at its first colon, and the
colons at the beginning of the rest are dropped. No more than one may have been there. -/
def colonOf? (cs : List Char) : Option Nat := do
  let colon ← position? ':' cs
  let (interface, rest) ← splitBytes? colon cs
  let localName := rest.dropWhile (· = ':')
  if byteLength rest = byteLength localName + ':'.utf8Size ∧ isInterface interface = true ∧
      isSegment localName = true then some colon
  else none

end ServiceName

/-- The text of a name, and the position of the colon in it. -/
structure ServiceName where
  text : String
  colon : Nat
  colon_ok : ServiceName.colonOf? text.toList = some colon
  deriving DecidableEq

namespace ServiceName

/-- What stands before the colon. -/
def interface (n : ServiceName) : String :=
  .ofList (((splitBytes? n.colon n.text.toList).map Prod.fst).getD [])

/-- What stands behind the colon. -/
def localName (n : ServiceName) : String :=
  .ofList (((splitBytes? (n.colon + ':'.utf8Size) n.text.toList).map Prod.snd).getD [])

/-- The name in a text. -/
def parse (input : String) : Except NameError ServiceName :=
  let t := trim input
  if t = "" then .error (.blank .service input.utf8ByteSize)
  else match h : colonOf? t.toList with
    | some colon => .ok ⟨t, colon, h⟩
    | none => .error (.malformedService t)

/-- Names are ordered by their texts, then by the positions of their colons. -/
def le (a b : ServiceName) : Bool :=
  decide (a.text < b.text) || a.text = b.text && decide (a.colon ≤ b.colon)

theorem isSegmentStart_colon : isSegmentStart ':' = false := by decide +kernel

/-- Before a segment just one colon is dropped. -/
theorem dropWhile_colon {l : List Char} (h : isSegment l = true) :
    (':' :: l).dropWhile (· = ':') = l := by
  obtain _ | ⟨c, l⟩ := l
  · cases h
  · have hc : c ≠ ':' := by
      rintro rfl
      rw [isSegment, isSegmentStart_colon] at h
      cases h
    simp [hc]

/-- An interface, a colon and a segment are a name. -/
theorem colonOf?_append {i l : List Char} (hcolon : ':' ∉ i) (hi : isInterface i = true)
    (hl : isSegment l = true) : colonOf? (i ++ ':' :: l) = some (byteLength i) := by
  rw [colonOf?, position?_append hcolon]
  simp only [bind, Option.bind_some, splitBytes?_byteLength, dropWhile_colon hl]
  exact if_pos ⟨Nat.add_comm _ _, hi, hl⟩

end ServiceName

/-- A service and the package that it comes from. -/
structure ServiceDescriptor where
  name : ServiceName
  package : PackageName
  deriving DecidableEq

def ServiceDescriptor.parse (name package : String) : Except NameError ServiceDescriptor := do
  let n ← ServiceName.parse name
  let p ← Label.parse .package package
  pure ⟨n, p⟩

/-- On whose behalf a call runs. -/
structure InvokeState where
  session : SessionId
  user : UserName
  deriving DecidableEq

def InvokeState.parse (session user : String) : Except NameError InvokeState := do
  let s ← Label.parse .session session
  let u ← Label.parse .user user
  pure ⟨s, u⟩

end CallWatch
