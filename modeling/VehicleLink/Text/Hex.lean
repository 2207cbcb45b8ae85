/-!
# Hexadecimal text

Fixed-width hexadecimal numerals, in the letter case that the place of use asks for.
-/

namespace VehicleLink.Hex

/-- Which letters stand for the digits ten to fifteen. -/
inductive LetterCase where
  | lower
  | upper
deriving DecidableEq, Repr

/-- The character of a single digit. -/
def digit (letters : LetterCase) (n : Nat) : Char :=
  -- The codes of `0`, of `a` less ten and of `A` less ten.
  let d := n % 16
  if d < 10 then Char.ofNat (48 + d)
  else match letters with
    | .lower => Char.ofNat (87 + d)
    | .upper => Char.ofNat (55 + d)

/-- The lowest `width` hexadecimal digits of `n`, most significant first. -/
def digits (letters : LetterCase) : Nat → Nat → List Char
  | 0, _ => []
  | width + 1, n => digits letters width (n / 16) ++ [digit letters n]

/-- The numeral of `width` digits for `n`. -/
def numeral (letters : LetterCase) (width n : Nat) : String :=
  String.ofList (digits letters width n)

/-- The digits of `n` without leading zeros, `0` for zero. -/
def shortest (letters : LetterCase) (n : Nat) : String :=
  String.ofList ((Nat.toDigits 16 n).map fun c =>
    match letters with
    | .lower => c
    | .upper => c.toUpper)

end VehicleLink.Hex
