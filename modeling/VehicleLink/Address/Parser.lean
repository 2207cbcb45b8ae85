import VehicleLink.Address.Basic
import VehicleLink.Text.Parsing

/-!
# Reading socket addresses

The inverse of the written form, and of the other usual spellings of an IPv6 address: groups with
leading zeros or capital digits, a double colon anywhere, the last two groups in dotted decimal.
Octets have no leading zeros; ports and scopes may have them.
-/

namespace VehicleLink

namespace Address

open Text

/-- What a place that holds a number accepts. -/
structure NumberFormat where
  base : Nat
  /-- The greatest number of digits, if it is bounded. -/
  maxDigits : Option Nat
  /-- Whether a number of several digits may start with a zero. -/
  leadingZeros : Bool
  maxValue : Nat

/-- An octet in dotted decimal. -/
def NumberFormat.octet : NumberFormat := ⟨10, some 3, false, 255⟩

/-- A group of an IPv6 address. -/
def NumberFormat.group : NumberFormat := ⟨16, some 4, true, 65535⟩

/-- A port. -/
def NumberFormat.port : NumberFormat := ⟨10, none, true, 65535⟩

/-- The number of an interface. -/
def NumberFormat.scope : NumberFormat := ⟨10, none, true, UInt32.size - 1⟩

/-- Reads all digits that follow as one number. -/
def number (format : NumberFormat) : Parser Nat := fun cs =>
  let isDigit := fun c => (digitValue? format.base c).isSome
  let digits := cs.takeWhile isDigit
  let value := ofDigits format.base (digits.filterMap (digitValue? format.base))
  let zeroLed := digits.head? == some '0' && 1 < digits.length
  if digits.isEmpty || format.maxDigits.any (· < digits.length) || (zeroLed && !format.leadingZeros)
      || format.maxValue < value then none
  else some (value, cs.dropWhile isDigit)

/-- Reads with `p`, behind a separator unless it is the first item. -/
def separated {α : Type} (separator : Char) (index : Nat) (p : Parser α) : Parser α := fun cs =>
  if index = 0 then p cs
  else do
    let ((), cs) ← char separator cs
    p cs

/-- Reads four octets between dots. -/
def ipv4 : Parser Ipv4 := fun cs => do
  let (a, cs) ← number .octet cs
  let ((), cs) ← char '.' cs
  let (b, cs) ← number .octet cs
  let ((), cs) ← char '.' cs
  let (c, cs) ← number .octet cs
  let ((), cs) ← char '.' cs
  let (d, cs) ← number .octet cs
  return (⟨UInt8.ofNat a, UInt8.ofNat b, UInt8.ofNat c, UInt8.ofNat d⟩, cs)

/-- Reads up to `room` groups separated by colons, the first of which has the index `index`. An IPv4
address in place of two groups ends them; the second component tells whether one was read. -/
def groups (index : Nat) : Nat → List Char → (List UInt16 × Bool) × List Char
  | 0, cs => (([], false), cs)
  | room + 1, cs =>
    -- Dotted decimal takes the room of two groups. It is tried first, since its first octet may
    -- also be read as a group.
    match if room = 0 then none else separated ':' index ipv4 cs with
    | some (ip, rest) =>
      let high := UInt16.ofNat (ip.a.toNat * 256 + ip.b.toNat)
      let low := UInt16.ofNat (ip.c.toNat * 256 + ip.d.toNat)
      (([high, low], true), rest)
    | none =>
      match separated ':' index (number .group) cs with
      | some (group, rest) =>
        let ((more, embedded), rest) := groups (index + 1) room rest
        ((UInt16.ofNat group :: more, embedded), rest)
      | none => (([], false), cs)

/-- Reads an IPv6 address. A double colon stands for at least one group, and no IPv4 address may
come before it. -/
def ipv6 : Parser Ipv6 := fun cs => do
  let ((front, embedded), cs) := groups 0 8 cs
  if front.length = 8 then return (Ipv6.ofList front, cs)
  -- Dotted decimal stands at the very end of an address.
  if embedded then none
  let ((), cs) ← char ':' cs
  let ((), cs) ← char ':' cs
  -- The double colon takes the room of one group at least.
  let ((back, _), cs) := groups 0 (7 - front.length) cs
  return (Ipv6.ofList (front ++ List.replicate (8 - front.length - back.length) 0 ++ back), cs)

/-- Reads a colon and a port. -/
def port : Parser UInt16 := fun cs => do
  let ((), cs) ← char ':' cs
  let (n, cs) ← number .port cs
  return (UInt16.ofNat n, cs)

/-- Reads an IPv4 address with its port. -/
def socketV4 : Parser SocketAddress := fun cs => do
  let (ip, cs) ← ipv4 cs
  let (port, cs) ← port cs
  return (.v4 ip port, cs)

/-- Reads the scope of an IPv6 address, zero if none is given. -/
def scope : List Char → UInt32 × List Char := fun cs =>
  match char '%' cs with
  | some ((), rest) =>
    match number .scope rest with
    | some (n, rest) => (UInt32.ofNat n, rest)
    | none => (0, cs)
  | none => (0, cs)

/-- Reads an IPv6 address in brackets with its port. The scope stands inside the brackets. -/
def socketV6 : Parser SocketAddress := fun cs => do
  let ((), cs) ← char '[' cs
  let (ip, cs) ← ipv6 cs
  let (scope, cs) := scope cs
  let ((), cs) ← char ']' cs
  let (port, cs) ← port cs
  return (.v6 ip scope port, cs)

end Address

/-- The address that a text spells, if it is nothing but an address. No text spells one of both
kinds. -/
def SocketAddress.ofString? (text : String) : Option SocketAddress :=
  let cs := text.toList
  match Text.whole? Address.socketV4 cs with
  | some address => some address
  | none => Text.whole? Address.socketV6 cs

end VehicleLink
