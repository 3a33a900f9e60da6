import Diameter.Toml.Scalar
import Diameter.Toml.Table

/-!
# Reading TOML

A text is a sequence of lines, each of which is blank, gives a key its value, or opens a
table. Values nest to a limited depth, on which the recursion of the readers rests.
Version 1.0 of the format is read.
-/

namespace Diameter.Toml

/-- The values of a list after its opening bracket. A comma may follow the last. There is at
least one character for each value. -/
def listItems (item : Reader Document) : (most : Nat) → Reader (List Document)
  | 0, _ => none
  | most + 1, text => do
    let text ← skipLines .blanks text
    match text with
    | ']' :: rest => return ([], rest)
    | text =>
      let (v, rest) ← item text
      match ← skipLines .blanks rest with
      | ',' :: rest =>
        let (vs, rest) ← listItems item most rest
        return (v :: vs, rest)
      | ']' :: rest => return ([v], rest)
      | _ => none

/-- A key and the value that is given to it. -/
def assignment (item : Reader Document) : Reader (List String × Document) := fun text => do
  let (path, rest) ← key text
  match rest with
  | '=' :: rest =>
    let (v, rest) ← item (skipBlanks rest)
    return ((path, v), skipBlanks rest)
  | _ => none

/-- Adds a value under a key with dots. -/
def addPath (path : List String) (v : Document) (fields : Fields) : Option Fields := do
  fields.add true path.dropLast (← path.getLast?) v

/-- The fields of a table in braces after at least one has to follow. -/
def braceFields (item : Reader Document) (fields : Fields) : (most : Nat) → Reader Fields
  | 0, _ => none
  | most + 1, text => do
    let ((path, v), rest) ← assignment item text
    let fields ← addPath path v fields
    match rest with
    | ',' :: rest => braceFields item fields most rest
    | '\x7d' :: rest => return (fields, rest)
    | _ => none

/-- A table in braces, after the opening one. It stands on one line. -/
def braceTable (item : Reader Document) : Reader Document := fun text =>
  match skipBlanks text with
  | '\x7d' :: rest => some (.table [], rest)
  | text => (braceFields item [] text.length text).map fun r => (.table (fieldsToDocuments r.1), r.2)

/-- A value with at most `depth` lists and tables around its innermost part. -/
def value : (depth : Nat) → Reader Document
  | 0, text => scalar text
  | depth + 1, text =>
    match text with
    | '[' :: rest => (listItems (value depth) text.length rest).map fun r => (.list r.1, r.2)
    | '\x7b' :: rest => braceTable (value depth) rest
    | text => scalar text

/-- A text that has been read in part. -/
structure Reading where
  /-- What has been read. -/
  fields : Fields
  /-- The table to which the next keys belong. -/
  header : List String

/-- The keys of a header up to its closing brackets, and what follows its line. -/
def headerLine (closing : List Char) (text : List Char) : Option (List String × List Char) := do
  let (path, rest) ← key text
  if closing.isPrefixOf rest then return (path, ← finishLine? (rest.drop closing.length)) else none

/-- Reads one line that is not blank. -/
def line (r : Reading) (text : List Char) : Option (Reading × List Char) :=
  match text with
  | '[' :: '[' :: rest => do
    let (path, rest) ← headerLine [']', ']'] rest
    let fields ← r.fields.within (Fields.openElement (← path.getLast?)) path.dropLast
    return (⟨fields, path⟩, rest)
  | '[' :: rest => do
    let (path, rest) ← headerLine [']'] rest
    let fields ← r.fields.within (Fields.openTable (← path.getLast?)) path.dropLast
    return (⟨fields, path⟩, rest)
  | text => do
    let ((path, v), rest) ← assignment (value (depthLimit - 1)) text
    let fields ← r.fields.within (addPath path v) r.header
    return (⟨fields, r.header⟩, ← finishLine? rest)

/-- Reads at most `most` lines that are not blank. -/
def lines (r : Reading) : (most : Nat) → List Char → Option Reading
  | 0, _ => none
  | most + 1, text => do
    match ← skipLines .blanks text with
    | [] => return r
    | text =>
      let (r, rest) ← line r text
      lines r most rest

/-- The document that a text is. A byte order mark may stand in front. -/
def read (text : String) : Option Document := do
  let chars := match text.toList with
    | '\ufeff' :: rest => rest
    | chars => chars
  let r ← lines ⟨[], []⟩ (chars.length + 1) chars
  return .table (fieldsToDocuments r.fields)

end Diameter.Toml
