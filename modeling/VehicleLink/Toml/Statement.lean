import VehicleLink.Toml.Moment
import VehicleLink.Toml.Number
import VehicleLink.Toml.Quoted
import VehicleLink.Toml.Value

/-!
# The lines of a document

A document is a sequence of lines, each blank or with one statement: a key with its value, or the
header of a table. Arrays and tables in braces may go on over several lines; they nest at most
`maxDepth` deep, and no key has more than `maxDepth` parts.
-/

namespace VehicleLink.Toml

open Text

/-- How deep arrays and tables in braces may nest, and how many parts a dotted key may have. -/
def maxDepth : Nat := 80

/-! ## Keys -/

/-- The characters of a key without quotes. -/
def isBare (c : Char) : Bool := c.isAlphanum || c = '_' || c = '-'

/-- Reads one part of a key. Quotes of either kind make any text a part of a key. -/
def name : Parser String := fun cs =>
  ((run isBare cs).map fun (text, rest) => (String.ofList text, rest))
    <|> Quotes.line .double cs
    <|> Quotes.line .single cs

/-- Reads a key whose parts are separated by dots. Line breaks do not belong around the dots, also
where they may stand around the key. -/
def key : Parser Key := fun cs => do
  let (first, cs) ← name cs
  let (others, cs) := many
    (fun cs => do
      let ((), cs) ← char '.' (skipBlanks cs)
      name (skipBlanks cs))
    cs
  if others.length < maxDepth then
    let names := first :: others
    return (⟨names.dropLast, names.getLastD first⟩, cs)
  else none

/-! ## Values -/

/-- The characters of which words consist: numbers, moments and truth values. -/
def isWordChar (c : Char) : Bool := isBare c || c = '+' || c = '.' || c = ':'

/-- The value that a word is, if it is one. Nothing can be read in two ways, but for numbers, of
which the integers go first. -/
def ofWord? (word : List Char) : Option Value :=
  if word = ['t', 'r', 'u', 'e'] then some (.boolean true)
  else if word = ['f', 'a', 'l', 's', 'e'] then some (.boolean false)
  else
    match integer? word with
    | some n => some (.integer n)
    | none =>
      if isFloat word then some .float
      else if isMoment word then some .moment
      else none

/-- Reads a word. A date and a time of day with a space between them are one word. -/
def word : Parser Value := fun cs => do
  let first := cs.takeWhile isWordChar
  let rest := cs.dropWhile isWordChar
  match rest with
  | ' ' :: behind =>
    -- Behind anything but a date, a space ends the word.
    if isDate first && (behind.head?.any Char.isDigit) then
      let value ← ofWord? (first ++ ' ' :: behind.takeWhile isWordChar)
      return (value, behind.dropWhile isWordChar)
    else
      return (← ofWord? first, rest)
  | _ => return (← ofWord? first, rest)

/-- Reads a value that holds no others. -/
def scalar : Parser Value := fun cs =>
  match cs with
  | '"' :: _ => (Quotes.text .double cs).map fun (text, rest) => (.string text, rest)
  | '\x27' :: _ => (Quotes.text .single cs).map fun (text, rest) => (.string text, rest)
  | _ => word cs

/-- Reads items with commas between them and possibly behind the last one, up to the closing
bracket. -/
def listed {α : Type} (item : Parser α) (closing : Char) : Parser (List α) := fun cs =>
  match item (skipSeparators cs) with
  | none => do
    let ((), cs) ← char closing (skipSeparators cs)
    return ([], cs)
  -- A comma may stand behind the last item, but not in front of the first.
  | some (first, cs) => do
    let (others, cs) := many
      (fun cs => do
        let ((), cs) ← char ',' (skipSeparators cs)
        item (skipSeparators cs))
      cs
    let (_, cs) := optional (char ',') (skipSeparators cs)
    let ((), cs) ← char closing (skipSeparators cs)
    return (first :: others, cs)

/-- Reads a key with its value. What `skip` leaves out may stand on both sides of the equals
sign. -/
def assignment (skip : List Char → List Char) (value : Parser Value) : Parser (Key × Value) :=
  fun cs => do
    let (key, cs) ← key cs
    let ((), cs) ← char '=' (skip cs)
    let (value, cs) ← value (skip cs)
    return ((key, value), cs)

/-- The table that the assignments in braces make up, if none of them gets in the way of another. -/
def ofAssignments? (assignments : List (Key × Value)) : Option Value := do
  let entries ← assignments.foldlM
    (fun (entries : Entries) (key, value) => entries.assign .header key value) []
  return .table .braces entries

/-- Reads a value in which arrays and tables nest at most `depth` deep. -/
def value : Nat → Parser Value
  | 0, cs => scalar cs
  | depth + 1, cs =>
    match cs with
    | '[' :: cs => (listed (value depth) ']' cs).map fun (items, rest) => (.array items, rest)
    | '{' :: cs => do
      let (assignments, cs) ← listed (assignment skipSeparators (value depth)) '}' cs
      return (← ofAssignments? assignments, cs)
    | _ => scalar cs

/-! ## Lines -/

/-- What a line says. -/
inductive Statement where
  | blank
  | assign (key : Key) (value : Value)
  /-- What follows belongs to the table. -/
  | table (key : Key)
  /-- What follows belongs to a new table of the array. -/
  | item (key : Key)

/-- Reads what a line says. -/
def statement : Parser Statement := fun cs =>
  match cs with
  | '[' :: '[' :: cs => do
    let (key, cs) ← key (skipBlanks cs)
    let ((), cs) ← literal [']', ']'] (skipBlanks cs)
    return (.item key, cs)
  | '[' :: cs => do
    let (key, cs) ← key (skipBlanks cs)
    let ((), cs) ← char ']' (skipBlanks cs)
    return (.table key, cs)
  | _ =>
    (assignment skipBlanks (value maxDepth) cs).map fun ((key, value), rest) =>
      (.assign key value, rest)

/-- Reads a line with its end. It must not be empty altogether, since the text would never end
otherwise. -/
def line : Parser Statement := fun cs => do
  if cs.isEmpty then none
  match statement (skipBlanks cs) with
  | some (statement, cs) =>
    let ((), cs) ← lineEnd cs
    return (statement, cs)
  | none =>
    let ((), cs) ← lineEnd cs
    return (.blank, cs)

/-- The lines of a text. A byte order mark at its start is left out. -/
def lines? (text : String) : Option (List Statement) :=
  whole? (fun cs => some (many line cs))
    (match text.toList with
      | '\ufeff' :: cs => cs
      | cs => cs)

end VehicleLink.Toml
