import CallWatch.File.Path

/-!
Files by path, and how reading one fails.
-/

namespace CallWatch

inductive ReadError where
  | notFound
  | permissionDenied
  | notDirectory
  | isDirectory
  | nameTooLong
  | zeroInName
  /-- The content is no text. -/
  | notText
  | other (message : String)
  deriving DecidableEq

def ReadError.message : ReadError → String
  | notFound => "No such file or directory (os error 2)"
  | permissionDenied => "Permission denied (os error 13)"
  | notDirectory => "Not a directory (os error 20)"
  | isDirectory => "Is a directory (os error 21)"
  | nameTooLong => "File name too long (os error 36)"
  | zeroInName => "file name contained an unexpected NUL byte"
  | notText => "stream did not contain valid UTF-8"
  | other m => m

/-- What a path leads to when it is read. -/
abbrev Files := String → Except ReadError ByteArray

def Files.readText (files : Files) (path : String) : Except ReadError String := do
  let bytes ← files path
  match String.fromUTF8? bytes with
  | some s => pure s
  | none => throw .notText

/-- The files and directories below a working directory; a directory is there if it is
listed or something is in it. -/
structure FileTree where
  files : List (List String × ByteArray)
  directories : List (List String)

namespace FileTree

def empty : FileTree := ⟨[], []⟩

def addFile (t : FileTree) (path : String) (content : ByteArray) : FileTree :=
  { t with files := (Path.steps path, content) :: t.files }

def addDirectory (t : FileTree) (path : String) : FileTree :=
  { t with directories := Path.steps path :: t.directories }

def isDirectory (t : FileTree) (p : List String) : Bool :=
  p.isEmpty || t.directories.any (p.isPrefixOf ·) ||
    t.files.any fun f => p.isPrefixOf f.1 && f.1 != p

/-- How many bytes a name may have. -/
def maxNameSize : Nat := 255

/-- Walks along the steps of a path from a directory inside the tree. -/
def walk (t : FileTree) (strict : Bool) : List String → List String → Except ReadError ByteArray
  | _, [] => .error .isDirectory
  | here, s :: rest =>
    if s = ".." then
      match here with
      | [] => outside rest
      | _ => walk t strict here.dropLast rest
    else
      let next := here ++ [s]
      if maxNameSize < s.utf8ByteSize then .error .nameTooLong
      else match t.files.lookup next with
        | some content =>
          if rest.isEmpty && !strict then .ok content else .error .notDirectory
        | none => if t.isDirectory next then walk t strict next rest else .error .notFound
where
  /-- Nothing is known to be outside but directories further up. -/
  outside : List String → Except ReadError ByteArray
    | [] => .error .isDirectory
    | s :: rest =>
      if s = ".." then outside rest
      else if maxNameSize < s.utf8ByteSize then .error .nameTooLong
      else .error .notFound

def read (t : FileTree) : Files := fun path =>
  if path.toList.contains '\x00' then .error .zeroInName
  else if path = "" then .error .notFound
  else if 4096 ≤ path.utf8ByteSize then .error .nameTooLong
  else if Path.isAbsolute path then walk.outside (Path.steps path)
  else t.walk (Path.wantsDirectory path) [] (Path.steps path)

end FileTree

end CallWatch
