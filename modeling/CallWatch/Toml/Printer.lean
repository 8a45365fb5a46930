import CallWatch.Toml.Quote

/-!
Lines of TOML: headers and names with plain values.
-/

namespace CallWatch.Toml

open CallWatch.Text

/-- A plain value. -/
inductive Leaf where
  | bool (b : Bool)
  | number (n : Nat)
  | text (s : String)

def Leaf.chars : Leaf → List Char
  | bool true => ['t', 'r', 'u', 'e']
  | bool false => ['f', 'a', 'l', 's', 'e']
  | number n => Numeral.digits n
  | text s => textChars s.toList

/-- A line that gives a value to a bare name. -/
def entryChars (name : String) (v : Leaf) : List Char :=
  name.toList ++ ' ' :: '=' :: ' ' :: v.chars ++ ['\n']

/-- An empty line, a header and the entries of its table. -/
def sectionChars (name : String) (entries : List (String × Leaf)) : List Char :=
  '\n' :: '[' :: name.toList ++ ']' :: '\n' :: entries.flatMap fun e => entryChars e.1 e.2

end CallWatch.Toml
