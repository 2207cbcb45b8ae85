import VehicleLink.Text.Parsing

/-!
# Numbers

Integers are written in decimal with an optional sign, or without sign in hexadecimal, octal or
binary. Between two digits may stand an underscore; a decimal number of several digits does not
start with a zero. Integers have up to 128 bits. A floating-point number has a fraction or an
exponent and must not be too large for a double.
-/

namespace VehicleLink.Toml

open Text

/-- Reads digits, two of which may have an underscore between them. -/
def digits (base : Nat) : Parser (List Nat) := fun cs => do
  let (first, cs) ← digit base cs
  let (others, cs) := many (fun cs => digit base (optional (char '_') cs).2) cs
  return (first :: others, cs)

/-- Reads a decimal number without needless zeros. -/
def decimal : Parser Nat := fun cs => do
  let (ds, cs) ← digits 10 cs
  if ds.head? = some 0 && ds ≠ [0] then none
  return (ofDigits 10 ds, cs)

/-- Reads a sign, if there is one, and tells whether it is a minus. -/
def sign (cs : List Char) : Bool × List Char :=
  match optional (oneOf ['+', '-']) cs with
  | (c, cs) => (c = some '-', cs)

/-- Reads an integer in another base than ten: the letter that names it and the digits. -/
def radixInteger : Parser Int
  | '0' :: 'x' :: cs => (digits 16 cs).map fun (ds, cs) => ((ofDigits 16 ds : Int), cs)
  | '0' :: 'o' :: cs => (digits 8 cs).map fun (ds, cs) => ((ofDigits 8 ds : Int), cs)
  | '0' :: 'b' :: cs => (digits 2 cs).map fun (ds, cs) => ((ofDigits 2 ds : Int), cs)
  | _ => none

/-- Reads a decimal integer with its sign. -/
def decimalInteger : Parser Int := fun cs => do
  let (negative, cs) := sign cs
  let (n, cs) ← decimal cs
  return (if negative then -n else n, cs)

/-- Whether an integer is within the bounds of the format. -/
def isStorable (n : Int) : Bool := -(1 <<< 127 : Nat) ≤ n && n < (1 <<< 128 : Nat)

/-- The integer that a word is, if it is one. -/
def integer? (word : List Char) : Option Int :=
  (whole? radixInteger word <|> whole? decimalInteger word).filter isStorable

/-- Reads a fraction, and returns its digits. -/
def fraction : Parser (List Nat) := fun cs => do
  let ((), cs) ← char '.' cs
  digits 10 cs

/-- Reads an exponent, which may have zeros at the front. -/
def exponent : Parser Int := fun cs => do
  let (_, cs) ← oneOf ['e', 'E'] cs
  let (negative, cs) := sign cs
  let (ds, cs) ← digits 10 cs
  return (if negative then -(ofDigits 10 ds : Int) else ofDigits 10 ds, cs)

/-- The least number that is rounded to infinity as a double. -/
def doubleLimit : Nat := (1 <<< 1024) - (1 <<< 970)

/-- Whether `mantissa * 10 ^ exponent` is too large for a double. An exponent far out decides
alone. -/
def exceedsDouble (mantissa : Nat) (exponent : Int) : Bool :=
  let places : Int := (Nat.toDigits 10 mantissa).length + exponent
  -- Far from the limit the power of ten is not worked out, which might be huge.
  if mantissa = 0 || places < 300 then false
  else if 320 < places then true
  else if 0 ≤ exponent then doubleLimit ≤ mantissa * Nat.pow 10 exponent.toNat
  else doubleLimit * Nat.pow 10 (-exponent).toNat ≤ mantissa

/-- Reads a number with a fraction or an exponent that is not too large. -/
def scientific : Parser Unit := fun cs => do
  let (whole, cs) ← decimal cs
  let (places, cs) := optional fraction cs
  let (power, cs) := optional exponent cs
  if places.isNone && power.isNone then none
  let places := places.getD []
  let mantissa := whole * Nat.pow 10 places.length + ofDigits 10 places
  -- Without the point the number is as many powers of ten larger as it has decimal places.
  if exceedsDouble mantissa (power.getD 0 - places.length) then none
  return ((), cs)

/-- Whether a word is a floating-point number. Infinity and what is no number may have a sign,
too. -/
def isFloat (word : List Char) : Bool :=
  let (_, magnitude) := sign word
  magnitude = ['i', 'n', 'f'] || magnitude = ['n', 'a', 'n'] || (whole? scientific magnitude).isSome

end VehicleLink.Toml
