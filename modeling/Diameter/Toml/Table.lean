import Diameter.Document

/-!
# Tables of TOML while they are filled

A table comes about by a header, because a longer header passes through it, or because a
dotted key passes through it. How it came about decides what may still be added: a header
names a table once, and dotted keys stay out of tables that have a header of their own.
-/

namespace Diameter.Toml

/-- How a table came about. -/
inductive Origin where
  /-- It has a header, or is written out as a value. -/
  | header
  /-- A longer header passes through it. -/
  | passed
  /-- A dotted key passes through it. -/
  | dotted
  deriving DecidableEq, Repr

/-- What stands under a key. -/
inductive Node where
  /-- A finished value. -/
  | value (v : Document)
  /-- A table that may still grow. -/
  | table (origin : Origin) (fields : List (String × Node))
  /-- A list of tables, of which the last may still grow. -/
  | elements (all : List (List (String × Node)))

/-- The fields of a table. -/
abbrev Fields := List (String × Node)

mutual

/-- The value that a node stands for. -/
def Node.toDocument : Node → Document
  | .value v => v
  | .table _ fields => .table (fieldsToDocuments fields)
  | .elements all => .list (elementsToDocuments all)

/-- The values of the fields of a table. -/
def fieldsToDocuments : List (String × Node) → List (String × Document)
  | [] => []
  | (key, node) :: rest => (key, node.toDocument) :: fieldsToDocuments rest

/-- The values of the tables of a list. -/
def elementsToDocuments : List (List (String × Node)) → List Document
  | [] => []
  | fields :: rest => .table (fieldsToDocuments fields) :: elementsToDocuments rest

end

namespace Fields

/-- The fields with another node under a key that is there. -/
def replace (fields : Fields) (key : String) (node : Node) : Fields :=
  fields.map fun f => if f.1 = key then (key, node) else f

/-- Changes the last of several tables. -/
def changeLast (all : List Fields) (f : Fields → Option Fields) : Option (List Fields) := do
  let last ← all.getLast?
  return all.dropLast ++ [← f last]

/-- Adds a value under a dotted key whose last part is `key`. A key that has a dot ends in
a table that dotted keys made, so `open` tells whether it may end here. -/
def add (canEnd : Bool) : (path : List String) → (key : String) → Document → Fields → Option Fields
  | [], key, v, fields =>
    if canEnd && (fields.lookup key).isNone then some (fields ++ [(key, .value v)]) else none
  | part :: path, key, v, fields =>
    match fields.lookup part with
    | none => do
      return fields ++ [(part, .table .dotted (← add true path key v []))]
    | some (.value _) | some (.table .header _) => none
    | some (.table origin sub) => do
      return replace fields part (.table origin (← add (origin = .dotted) path key v sub))
    | some (.elements all) => do
      return replace fields part (.elements (← changeLast all (add false path key v)))

/-- Changes the table that a header leads to. Tables on the way come about if need be. -/
def within (f : Fields → Option Fields) : (path : List String) → Fields → Option Fields
  | [], fields => f fields
  | part :: path, fields =>
    match fields.lookup part with
    | none => do return fields ++ [(part, .table .passed (← within f path []))]
    | some (.value _) => none
    | some (.table origin sub) => do
      return replace fields part (.table origin (← within f path sub))
    | some (.elements all) => do
      return replace fields part (.elements (← changeLast all (within f path)))

/-- Opens the table called `key` by a header. -/
def openTable (key : String) (fields : Fields) : Option Fields :=
  match fields.lookup key with
  | none => some (fields ++ [(key, .table .header [])])
  | some (.table .passed sub) => some (replace fields key (.table .header sub))
  | some _ => none

/-- Opens one more table in the list called `key` by a header. -/
def openElement (key : String) (fields : Fields) : Option Fields :=
  match fields.lookup key with
  | none => some (fields ++ [(key, .elements [[]])])
  | some (.elements all) => some (replace fields key (.elements (all ++ [[]])))
  | some _ => none

end Fields

end Diameter.Toml
