/-!
# Numbers with a fixed count of decimal places

A double-precision number is a fraction whose denominator is a power of two. `FixedPlaces.text`
writes it with a given count of decimal places: the nearest such decimal to the exact value, and of
two equally near ones the one whose last digit is even.
-/

namespace VehicleLink.FixedPlaces

/-- The quotient rounded to the nearest whole number, a half to the even one. -/
def roundDiv (num den : Nat) : Nat :=
  let q := num / den
  let r := num % den
  -- The remainder is compared with half of the denominator.
  if 2 * r < den then q
  else if den < 2 * r then q + 1
  else q + q % 2

/-- A finite double-precision number: its sign, and its magnitude
`mantissa * 2 ^ (exponent - 1074)`. -/
structure Binary where
  /-- Whether the number is negative, or zero with a negative sign. -/
  negative : Bool
  /-- The digits of the magnitude, up to 53 bits. -/
  mantissa : Nat
  /-- The exponent, counted from that of the smallest positive number. -/
  exponent : Nat
deriving DecidableEq, Repr

/-- The finite number with the given bits, `none` for an infinity and for what is no number. -/
def Binary.ofBits? (bits : UInt64) : Option Binary :=
  let n := bits.toNat
  let fraction := n % (1 <<< 52)
  let biased := n / (1 <<< 52) % 2048
  let negative := n / (1 <<< 63) == 1
  if biased = 2047 then none
  -- Small numbers have no leading one, and share the exponent of those next to them.
  else if biased = 0 then some ⟨negative, fraction, 0⟩
  else some ⟨negative, (1 <<< 52) + fraction, biased - 1⟩

/-- The magnitude in units of the last of `places` decimal places, rounded. -/
def Binary.scaled (b : Binary) (places : Nat) : Nat :=
  roundDiv ((b.mantissa <<< b.exponent) * Nat.pow 10 places) (1 <<< 1074)

/-- A whole number of units of the last of `places` decimal places, in decimal. -/
def decimal (places units : Nat) : String :=
  if places = 0 then toString units
  else
    let fraction := toString (units % Nat.pow 10 places)
    toString (units / Nat.pow 10 places) ++ "."
      ++ String.ofList (List.replicate (places - fraction.length) '0') ++ fraction

/-- The number with `places` decimal places. -/
def text (places : Nat) (x : Float) : String :=
  match Binary.ofBits? x.toBits with
  | some b => (if b.negative then "-" else "") ++ decimal places (b.scaled places)
  | none => if x.isNaN then "NaN" else if x < 0 then "-inf" else "inf"

end VehicleLink.FixedPlaces
