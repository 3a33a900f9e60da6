import Diameter.Text.Digits

/-!
# Blanks, keys and strings of TOML

A reader takes what it reads from the head of the text and gives back the rest. Lines end
with a line feed, which may follow a carriage return. Control characters other than the
tab are allowed nowhere.
-/

namespace Diameter.Toml

/-- Takes a value from the head of the text, or fails. -/
abbrev Reader (α : Type) := List Char → Option (α × List Char)

/-- A space or a tab. -/
def isBlank (c : Char) : Bool := c = ' ' || c = '\t'

/-- A character that may stand in a comment or a literal string. -/
def isPlain (c : Char) : Bool := c = '\t' || (0x20 ≤ c.toNat && c.toNat ≠ 0x7f)

/-- The text without the blanks at its head. -/
def skipBlanks (text : List Char) : List Char := text.dropWhile isBlank

/-- What follows the end of a line, if the text starts with one. -/
def lineEnd? : List Char → Option (List Char)
  | '\n' :: rest => some rest
  | '\r' :: '\n' :: rest => some rest
  | _ => none

/-- The text without a comment at its head. -/
def skipComment : List Char → List Char
  | '#' :: rest => rest.dropWhile isPlain
  | text => text

/-- What follows a line on which nothing is left but blanks and a comment. The end of the
text ends a line as well. -/
def finishLine? (text : List Char) : Option (List Char) :=
  match skipComment (skipBlanks text) with
  | [] => some []
  | text => lineEnd? text

/-- Whether a skip is inside a comment. -/
inductive Skipping where
  | blanks
  | comment
  deriving DecidableEq

/-- Skips blanks, ends of lines and comments. A comment has to end with its line. -/
def skipLines : Skipping → List Char → Option (List Char)
  | _, '\n' :: rest => skipLines .blanks rest
  | _, '\r' :: '\n' :: rest => skipLines .blanks rest
  | .blanks, '#' :: rest => skipLines .comment rest
  | .blanks, c :: rest => if isBlank c then skipLines .blanks rest else some (c :: rest)
  | .comment, c :: rest => if isPlain c then skipLines .comment rest else none
  | _, [] => some []

/-- The character of a code point, if there is one. -/
def scalar? (n : Nat) : Option Char :=
  if n < 0xd800 ∨ (0xdfff < n ∧ n < 0x110000) then some (Char.ofNat n) else none

/-- The character that hexadecimal digits name. -/
def hexChar? (cs : List Char) : Option Char := do
  let ds ← cs.mapM (Text.digit? 16)
  scalar? (Text.ofDigits 16 ds)

/-- The character that stands for itself after a backslash, or by a letter. -/
def escaped? : Char → Option Char
  | 'b' => some '\x08'
  | 't' => some '\t'
  | 'n' => some '\n'
  | 'f' => some '\x0c'
  | 'r' => some '\r'
  | '"' => some '"'
  | '\\' => some '\\'
  | _ => none

/-- Puts a character in front of what a reader found. -/
def prepend (c : Char) (found : Option (List Char × List Char)) :
    Option (List Char × List Char) :=
  found.map fun r => (c :: r.1, r.2)

/-- A string of one line up to its closing quote. -/
def basicString : Reader (List Char)
  | '"' :: rest => some ([], rest)
  | '\\' :: 'u' :: a :: b :: c :: d :: rest => do
    prepend (← hexChar? [a, b, c, d]) (basicString rest)
  | '\\' :: 'U' :: a :: b :: c :: d :: e :: f :: g :: h :: rest => do
    prepend (← hexChar? [a, b, c, d, e, f, g, h]) (basicString rest)
  | '\\' :: c :: rest => do prepend (← escaped? c) (basicString rest)
  | c :: rest => if isPlain c then prepend c (basicString rest) else none
  | [] => none

/-- A literal string of one line up to its closing quote. -/
def literalString : Reader (List Char)
  | '\'' :: rest => some ([], rest)
  | c :: rest => if isPlain c then prepend c (literalString rest) else none
  | [] => none

/-- Whether the rest of the line is blank. -/
def blankToLineEnd (text : List Char) : Bool := (lineEnd? (skipBlanks text)).isSome

/-- A string of several lines up to its closing quotes, before which one or two quotes may
stand. A backslash at the end of a line joins the next text to it; `joining` tells that
this is going on. -/
def basicLines (joining : Bool) : Reader (List Char)
  | '"' :: '"' :: '"' :: '"' :: '"' :: rest => some (['"', '"'], rest)
  | '"' :: '"' :: '"' :: '"' :: rest => some (['"'], rest)
  | '"' :: '"' :: '"' :: rest => some ([], rest)
  | '\\' :: 'u' :: a :: b :: c :: d :: rest => do
    prepend (← hexChar? [a, b, c, d]) (basicLines false rest)
  | '\\' :: 'U' :: a :: b :: c :: d :: e :: f :: g :: h :: rest => do
    prepend (← hexChar? [a, b, c, d, e, f, g, h]) (basicLines false rest)
  | '\\' :: c :: rest =>
    match escaped? c with
    | some c => prepend c (basicLines false rest)
    | none => if blankToLineEnd (c :: rest) then basicLines true (c :: rest) else none
  | '\r' :: '\n' :: rest =>
    if joining then basicLines true rest else prepend '\n' (basicLines false rest)
  | '\n' :: rest => if joining then basicLines true rest else prepend '\n' (basicLines false rest)
  | c :: rest =>
    if joining && isBlank c then basicLines true rest
    else if isPlain c then prepend c (basicLines false rest)
    else none
  | [] => none

/-- A literal string of several lines up to its closing quotes, before which one or two
quotes may stand. -/
def literalLines : Reader (List Char)
  | '\'' :: '\'' :: '\'' :: '\'' :: '\'' :: rest => some (['\'', '\''], rest)
  | '\'' :: '\'' :: '\'' :: '\'' :: rest => some (['\''], rest)
  | '\'' :: '\'' :: '\'' :: rest => some ([], rest)
  | '\r' :: '\n' :: rest => prepend '\n' (literalLines rest)
  | '\n' :: rest => prepend '\n' (literalLines rest)
  | c :: rest => if isPlain c then prepend c (literalLines rest) else none
  | [] => none

/-- The text without the end of a line at its head. -/
def dropLineEnd (text : List Char) : List Char := (lineEnd? text).getD text

/-- A string of any form. -/
def string : Reader String := fun text =>
  let found : Option (List Char × List Char) :=
    match text with
    | '"' :: '"' :: '"' :: rest => basicLines false (dropLineEnd rest)
    | '"' :: rest => basicString rest
    | '\'' :: '\'' :: '\'' :: rest => literalLines (dropLineEnd rest)
    | '\'' :: rest => literalString rest
    | _ => none
  found.map fun r => (String.ofList r.1, r.2)

/-- A character of a key without quotes. -/
def isKeyChar (c : Char) : Bool := c.isAlphanum || c = '-' || c = '_'

/-- One part of a key. -/
def keyPart : Reader String
  | '"' :: rest => (basicString rest).map fun r => (String.ofList r.1, r.2)
  | '\'' :: rest => (literalString rest).map fun r => (String.ofList r.1, r.2)
  | text =>
    let bare := text.takeWhile isKeyChar
    if bare.isEmpty then none else some (String.ofList bare, text.dropWhile isKeyChar)

/-- At most `most` parts of a key with dots between them. Blanks may stand around each. -/
def keyParts : (most : Nat) → Reader (List String)
  | 0, _ => none
  | most + 1, text => do
    let (part, rest) ← keyPart (skipBlanks text)
    match skipBlanks rest with
    | '.' :: rest =>
      let (parts, rest) ← keyParts most rest
      return (part :: parts, rest)
    | rest => return ([part], rest)

/-- How deep values, and the parts of a key, may be nested. -/
def depthLimit : Nat := 80

/-- A key. -/
def key : Reader (List String) := keyParts (depthLimit - 1)

end Diameter.Toml
