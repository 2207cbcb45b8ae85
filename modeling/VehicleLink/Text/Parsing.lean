/-!
# Reading from the front of a text

A parser takes characters off the front of a text and returns its value with the rest, or nothing.
Alternatives are tried with `<|>` on the results; `many` repeats a parser and stops at an item that
takes nothing, so that it ends on every text.
-/

namespace VehicleLink.Text

/-- A parser: a value and the characters behind it, or nothing. -/
abbrev Parser (α : Type) := List Char → Option (α × List Char)

/-- The value of a digit in the given base. -/
def digitValue? (base : Nat) (c : Char) : Option Nat :=
  let value? :=
    if '0' ≤ c && c ≤ '9' then some (c.toNat - 48)
    else if 'a' ≤ c && c ≤ 'z' then some (c.toNat - 87)
    else if 'A' ≤ c && c ≤ 'Z' then some (c.toNat - 55)
    else none
  value?.filter (· < base)

/-- The number that digits stand for, the most significant first. -/
def ofDigits (base : Nat) (digits : List Nat) : Nat :=
  digits.foldl (fun n digit => n * base + digit) 0

/-- Reads a character that satisfies `p`. -/
def satisfying (p : Char → Bool) : Parser Char
  | [] => none
  | c :: cs => if p c then some (c, cs) else none

/-- Reads one expected character. -/
def char (expected : Char) : Parser Unit
  | [] => none
  | c :: cs => if c = expected then some ((), cs) else none

/-- Reads any one of the expected characters. -/
def oneOf (expected : List Char) : Parser Char := satisfying expected.contains

/-- Reads an expected text, all of it or nothing. -/
def literal (expected : List Char) : Parser Unit := fun cs =>
  if expected.isPrefixOf cs then some ((), cs.drop expected.length) else none

/-- Reads all characters up to the first that does not satisfy `p`, at least one. -/
def run (p : Char → Bool) : Parser (List Char) := fun cs =>
  match cs.takeWhile p with
  | [] => none
  | front => some (front, cs.dropWhile p)

/-- Reads one digit. -/
def digit (base : Nat) : Parser Nat
  | [] => none
  | c :: cs => (digitValue? base c).map (·, cs)

/-- Reads exactly so many digits, and leaves more of them to what follows. -/
def fixedDigits (base count : Nat) : Parser Nat := fun cs => do
  let digits ← (cs.take count).mapM (digitValue? base)
  if digits.length = count then some (ofDigits base digits, cs.drop count) else none

/-- Reads with `p` if that is possible. -/
def optional {α : Type} (p : Parser α) (cs : List Char) : Option α × List Char :=
  match p cs with
  | some (value, rest) => (some value, rest)
  | none => (none, cs)

/-- Reads with `p` as often as possible. An item that takes nothing is not read. -/
def many {α : Type} (p : Parser α) (cs : List Char) : List α × List Char :=
  match p cs with
  | none => ([], cs)
  | some (value, rest) =>
    -- Without this test an item of no characters would be read forever.
    if rest.length < cs.length then
      let (values, rest) := many p rest
      (value :: values, rest)
    else ([], cs)
termination_by cs.length

/-- Reads with `p` as often as possible, at least once. -/
def many1 {α : Type} (p : Parser α) : Parser (List α) := fun cs => do
  let (value, cs) ← p cs
  let (values, cs) := many p cs
  return (value :: values, cs)

/-- The value of a parser that has to read everything. -/
def whole? {α : Type} (p : Parser α) (cs : List Char) : Option α :=
  match p cs with
  | some (value, []) => some value
  | _ => none

end VehicleLink.Text
