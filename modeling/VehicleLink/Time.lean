/-!
# Time

The relay reads a steady clock. Readings and the spans between them are natural numbers of
nanoseconds, and a span is zero if the second reading is the earlier one. A span is written in the
largest unit of which it holds at least one, with all digits of the remainder and no trailing zeros.
-/

namespace VehicleLink.Duration

/-- A span of microseconds, in nanoseconds. -/
def ofMicros (n : Nat) : Nat := n * 1000

/-- A span of milliseconds, in nanoseconds. -/
def ofMillis (n : Nat) : Nat := n * 1000000

/-- The span from `earlier` to `later`, zero if the clock went back. -/
def between (earlier later : Nat) : Nat := later - earlier

/-- The digits of a fraction of `width` decimal places, without trailing zeros. -/
def fractionDigits (width n : Nat) : List Char :=
  let digits := Nat.toDigits 10 n
  -- The zeros at the front belong to the fraction, those at the end do not.
  let padded := List.replicate (width - digits.length) '0' ++ digits
  (padded.reverse.dropWhile (· == '0')).reverse

/-- A whole number of units and a fraction of `width` decimal places. -/
def decimal (whole width fraction : Nat) : String :=
  if fraction = 0 then toString whole
  else toString whole ++ "." ++ String.ofList (fractionDigits width fraction)

/-- The span in the largest unit that it holds at least one of. -/
def text (d : Nat) : String :=
  if 1000000000 ≤ d then decimal (d / 1000000000) 9 (d % 1000000000) ++ "s"
  else if 1000000 ≤ d then decimal (d / 1000000) 6 (d % 1000000) ++ "ms"
  else if 1000 ≤ d then decimal (d / 1000) 3 (d % 1000) ++ "µs"
  else toString d ++ "ns"

end VehicleLink.Duration
