import VehicleLink.Text.Parsing

/-!
# Dates and times

A moment is a date, a time of day, or both with a `T` or a space between them and possibly the
offset from universal time. Seconds may be left out, and may have a fraction.
-/

namespace VehicleLink.Toml

open Text

/-- Reads a number of two digits that is at least `least` and at most `greatest`. -/
def twoDigits (least greatest : Nat) : Parser Nat := fun cs => do
  let (n, cs) ← fixedDigits 10 2 cs
  if least ≤ n && n ≤ greatest then some (n, cs) else none

/-- The length of a month. In a leap year February has 29 days. -/
def daysInMonth (year month : Nat) : Nat :=
  if month = 2 then
    if year % 4 = 0 && (year % 100 ≠ 0 || year % 400 = 0) then 29 else 28
  else if month ∈ [4, 6, 9, 11] then 30
  else 31

/-- Reads a date that the calendar has. -/
def date : Parser Unit := fun cs => do
  let (year, cs) ← fixedDigits 10 4 cs
  let ((), cs) ← char '-' cs
  let (month, cs) ← twoDigits 1 12 cs
  let ((), cs) ← char '-' cs
  let (_, cs) ← twoDigits 1 (daysInMonth year month) cs
  return ((), cs)

/-- Reads seconds behind a colon, among them a leap second, and their fraction. -/
def seconds : Parser Unit := fun cs => do
  let ((), cs) ← char ':' cs
  let (_, cs) ← twoDigits 0 60 cs
  match cs with
  | '.' :: cs => (many1 (digit 10) cs).map fun (_, rest) => ((), rest)
  | cs => some ((), cs)

/-- Reads hours and minutes of a day. -/
def hourAndMinute : Parser Unit := fun cs => do
  let (_, cs) ← twoDigits 0 23 cs
  let ((), cs) ← char ':' cs
  let (_, cs) ← twoDigits 0 59 cs
  return ((), cs)

/-- Reads a time of day. -/
def time : Parser Unit := fun cs => do
  let ((), cs) ← hourAndMinute cs
  return ((), (optional seconds cs).2)

/-- Reads how far a time is from universal time. -/
def offset : Parser Unit
  | 'Z' :: cs | 'z' :: cs => some ((), cs)
  | '+' :: cs | '-' :: cs => hourAndMinute cs
  | _ => none

/-- Reads a date with a time of day, and an offset if there is one. -/
def dateTime : Parser Unit := fun cs => do
  let ((), cs) ← date cs
  let (_, cs) ← oneOf ['T', 't', ' '] cs
  let ((), cs) ← time cs
  return ((), (optional offset cs).2)

/-- Whether the characters are a moment and nothing else. -/
def isMoment (cs : List Char) : Bool :=
  (whole? dateTime cs).isSome || (whole? date cs).isSome || (whole? time cs).isSome

/-- Whether the characters are a date and nothing else. -/
def isDate (cs : List Char) : Bool := (whole? date cs).isSome

end VehicleLink.Toml
