import VehicleLink.Text.Parsing

/-!
# What separates the items of a document

Blanks, line breaks and comments. A comment runs to the end of its line and holds no control
characters but tabs.
-/

namespace VehicleLink.Toml

open Text

/-- Spaces and tabs. -/
def isBlank (c : Char) : Bool := c = ' ' || c = '\t'

/-- The characters that text may hold as they are: no control characters but tabs. -/
def isPlain (c : Char) : Bool := c = '\t' || (' ' ≤ c && c ≠ '\x7f')

/-- What is left behind blanks. -/
def skipBlanks (cs : List Char) : List Char := cs.dropWhile isBlank

/-- Reads a line break, and returns it as it is written. -/
def lineBreak : Parser (List Char)
  | '\n' :: cs => some (['\n'], cs)
  | '\r' :: '\n' :: cs => some (['\r', '\n'], cs)
  | _ => none

/-- Reads a comment, up to the line break or a character that may not stand in it. -/
def comment : Parser Unit
  | '#' :: cs => some ((), cs.dropWhile isPlain)
  | _ => none

/-- Reads blanks, a line break or a comment. -/
def separator : Parser Unit := fun cs =>
  ((run isBlank cs).map fun (_, rest) => ((), rest))
    <|> ((lineBreak cs).map fun (_, rest) => ((), rest))
    <|> comment cs

/-- What is left behind blanks, line breaks and comments. -/
def skipSeparators (cs : List Char) : List Char := (many separator cs).2

/-- Reads what may end a line: blanks, a comment, and the line break or the end of the text. -/
def lineEnd : Parser Unit := fun cs =>
  let (_, cs) := optional comment (skipBlanks cs)
  match cs with
  | [] => some ((), [])
  | cs => (lineBreak cs).map fun (_, rest) => ((), rest)

end VehicleLink.Toml
