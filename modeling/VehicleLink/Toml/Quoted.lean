import VehicleLink.Toml.Blank

/-!
# Quoted text

Text is written in double quotes, with escapes, or in single quotes, as it is; in three quotes of a
kind it may run over several lines. A line break right behind the three quotes is not part of the
text, and up to two quotes may stand directly before the closing three.
-/

namespace VehicleLink.Toml

open Text

/-- Reads so many hexadecimal digits as the number of a character. -/
def codePoint (digits : Nat) : Parser Char := fun cs => do
  let (n, cs) ← fixedDigits 16 digits cs
  if h : n.isValidChar then some (Char.ofNatAux n h, cs) else none

/-- Reads what stands behind the backslash of an escape. -/
def escape : Parser Char
  | 'b' :: cs => some ('\x08', cs)
  | 't' :: cs => some ('\t', cs)
  | 'n' :: cs => some ('\n', cs)
  | 'f' :: cs => some ('\x0c', cs)
  | 'r' :: cs => some ('\r', cs)
  | 'e' :: cs => some ('\x1b', cs)
  | '"' :: cs => some ('"', cs)
  | '\\' :: cs => some ('\\', cs)
  | 'x' :: cs => codePoint 2 cs
  | 'u' :: cs => codePoint 4 cs
  | 'U' :: cs => codePoint 8 cs
  | _ => none

/-- The two kinds of quotes. -/
inductive Quotes where
  /-- Double quotes, between which a backslash starts an escape. -/
  | double
  /-- Single quotes, between which all stands for itself. -/
  | single
deriving DecidableEq, Repr

namespace Quotes

/-- The quote itself. -/
def mark : Quotes → Char
  | double => '"'
  | single => '\x27'

/-- Reads a backslash with what belongs to it, where that is an escape. -/
def escaped (quotes : Quotes) : Parser (List Char) := fun cs =>
  match quotes, cs with
  | double, '\\' :: cs => (escape cs).map fun (c, rest) => ([c], rest)
  | _, _ => none

/-- Reads characters that stand for themselves. -/
def plain (quotes : Quotes) : Parser (List Char) :=
  run fun c => isPlain c && c ≠ quotes.mark && (quotes = single || c ≠ '\\')

/-- Reads a text between two quotes, on one line. -/
def line (quotes : Quotes) : Parser String := fun cs => do
  let ((), cs) ← char quotes.mark cs
  let (pieces, cs) := many (fun cs => quotes.plain cs <|> quotes.escaped cs) cs
  let ((), cs) ← char quotes.mark cs
  return (String.ofList pieces.flatten, cs)

/-- Reads a backslash at the end of a line, and all blanks and line breaks behind it. A carriage
return without a line feed is no line break, and is left to be refused. -/
def continuation (quotes : Quotes) : Parser (List Char) := fun cs => do
  if quotes = single then none
  let ((), cs) ← char '\\' cs
  let (_, cs) ← lineBreak (skipBlanks cs)
  return ([], (many (fun cs => run isBlank cs <|> lineBreak cs) cs).2)

/-- Reads a quote that is part of a text of several lines: one that does not start the closing
three. -/
def inner (quotes : Quotes) : Parser (List Char) := fun cs =>
  let count := (cs.takeWhile (· = quotes.mark)).length
  -- Four or five quotes in a row are one or two of the text and the closing three.
  if count ∈ [1, 2, 4, 5] then some ([quotes.mark], cs.drop 1) else none

/-- Reads the next piece of a text of several lines. Quotes come last, since they may be the end of
it. -/
def piece (quotes : Quotes) : Parser (List Char) := fun cs =>
  quotes.plain cs <|> quotes.continuation cs <|> quotes.escaped cs <|> lineBreak cs
    <|> quotes.inner cs

/-- The three quotes around a text of several lines. -/
def triple (quotes : Quotes) : List Char := List.replicate 3 quotes.mark

/-- Reads a text that may have several lines. -/
def block (quotes : Quotes) : Parser String := fun cs => do
  let ((), cs) ← literal quotes.triple cs
  let (_, cs) := optional lineBreak cs
  let (pieces, cs) := many quotes.piece cs
  let ((), cs) ← literal quotes.triple cs
  return (String.ofList pieces.flatten, cs)

/-- Reads a text of either form. -/
def text (quotes : Quotes) : Parser String := fun cs =>
  if quotes.triple.isPrefixOf cs then quotes.block cs else quotes.line cs

end Quotes

end VehicleLink.Toml
