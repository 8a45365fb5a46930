import CallWatch.Text.Pieces

/-!
Path texts: the components between slashes and the extension of a file name.
-/

namespace CallWatch.Path

open CallWatch.Text

/-- The pieces between slashes that lead somewhere. -/
def steps (path : String) : List String :=
  ((pieces '/' path.toList).map String.ofList).filter fun p => p ≠ "" ∧ p ≠ "."

def isAbsolute (path : String) : Bool := path.toList.head? = some '/'

/-- Whether the path asks for a directory. -/
def wantsDirectory (path : String) : Bool :=
  match (pieces '/' path.toList).getLast? with
  | some p => p = [] || p = ['.'] || p = ['.', '.']
  | none => false

/-- What follows the last point of a file name, unless that point is its first character. -/
def nameExtension (name : List Char) : Option (List Char) :=
  if name = ['.', '.'] then none
  else
    let tail := name.reverse.takeWhile (· ≠ '.')
    let rest := name.reverse.dropWhile (· ≠ '.')
    if rest.length ≤ 1 then none else some tail.reverse

/-- The extension of the file that a path names. -/
def extension (path : String) : Option String :=
  (steps path).getLast?.bind fun n => (nameExtension n.toList).map String.ofList

end CallWatch.Path
