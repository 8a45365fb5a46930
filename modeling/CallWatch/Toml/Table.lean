import CallWatch.Document

/-!
Tables under construction.

A table says how it came to be, since that decides what may still be added to it: a header
names a table once, a dotted name goes through the tables that dotted names and deeper
headers have made, and a value is closed.
-/

namespace CallWatch.Toml

inductive Origin where
  /-- Named by a header of its own. -/
  | headed
  /-- On the way to a table that a header names. -/
  | implied
  /-- On the way of a dotted name. -/
  | dotted
  deriving DecidableEq

inductive Node where
  | value (v : Document)
  | table (origin : Origin) (fields : List (String × Node))
  /-- A list of tables, the latest apart, with the others in reverse order. -/
  | tables (latest : List (String × Node)) (others : List (List (String × Node)))

abbrev Fields := List (String × Node)

namespace Fields

/-- Gives a value to a dotted name that has none. -/
def assign (v : Document) : List String → Fields → Option Fields
  | [], _ => none
  | [k], fs =>
    match Record.get? fs k with
    | none => some (Record.insert fs k (.value v))
    | some _ => none
  | k :: ks, fs =>
    match Record.get? fs k with
    | none => (assign v ks []).map fun gs => Record.insert fs k (.table .dotted gs)
    | some (.table o gs) =>
      if o = .headed then none
      else (assign v ks gs).map fun gs => Record.insert fs k (.table o gs)
    | some _ => none

/-- What the header of a table makes of the node under its name. -/
def headTable? : Option Node → Option Node
  | none => some (.table .headed [])
  | some (.table .implied gs) => some (.table .headed gs)
  | some _ => none

/-- What the header of an item of a list of tables makes of the node under its name. -/
def headItem? : Option Node → Option Node
  | none => some (.tables [] [])
  | some (.tables latest others) => some (.tables [] (latest :: others))
  | some _ => none

/-- Opens the table that a header names; `ofList` tells the header of an item. -/
def head (ofList : Bool) : List String → Fields → Option Fields
  | [], _ => none
  | [k], fs =>
    let n := Record.get? fs k
    (if ofList then headItem? n else headTable? n).map fun n => Record.insert fs k n
  | k :: ks, fs =>
    match Record.get? fs k with
    | none => (head ofList ks []).map fun gs => Record.insert fs k (.table .implied gs)
    | some (.table o gs) => (head ofList ks gs).map fun gs => Record.insert fs k (.table o gs)
    | some (.tables latest others) =>
      (head ofList ks latest).map fun gs => Record.insert fs k (.tables gs others)
    | some (.value _) => none

/-- Gives a value to a dotted name in the table at a path. -/
def assignAt (v : Document) (name : List String) : List String → Fields → Option Fields
  | [], fs => assign v name fs
  | k :: ks, fs =>
    match Record.get? fs k with
    | some (.table o gs) =>
      (assignAt v name ks gs).map fun gs => Record.insert fs k (.table o gs)
    | some (.tables latest others) =>
      (assignAt v name ks latest).map fun gs => Record.insert fs k (.tables gs others)
    | _ => none

end Fields

mutual

def Node.toDocument : Node → Document
  | .value v => v
  | .table _ fs => .record (fieldDocuments fs)
  | .tables latest others =>
    .list ((itemDocuments others).reverse ++ [.record (fieldDocuments latest)])

def fieldDocuments : Fields → List (String × Document)
  | [] => []
  | (k, n) :: fs => (k, n.toDocument) :: fieldDocuments fs

def itemDocuments : List Fields → List Document
  | [] => []
  | fs :: rest => .record (fieldDocuments fs) :: itemDocuments rest

end

def Fields.toDocument (fs : Fields) : Document := .record (fieldDocuments fs)

end CallWatch.Toml
