import VehicleLink.Address.Basic
import VehicleLink.Text.Hex

/-!
# Writing socket addresses

IPv4 addresses are written in dotted decimal. IPv6 addresses are written in the canonical form of
RFC 5952: lower-case groups without leading zeros, the first of the longest runs of two or more zero
groups replaced by a double colon, and a mapped IPv4 address in dotted decimal.
-/

namespace VehicleLink

/-- Dotted decimal. -/
def Ipv4.text (ip : Ipv4) : String :=
  ".".intercalate ([ip.a, ip.b, ip.c, ip.d].map fun octet => toString octet.toNat)

namespace Ipv6

/-- A run of neighbouring groups. -/
structure Run where
  start : Nat
  length : Nat
deriving DecidableEq, Repr

/-- The first of the longest runs of zeros in `groups`, whose first group has the index `index`.
`current` is the run that ends just before it and `longest` the best one so far. -/
def longestZeroRun (current longest : Run) (index : Nat) : List UInt16 → Run
  | [] => longest
  | group :: groups =>
    if group = 0 then
      let current : Run :=
        -- A run that goes on keeps its start.
        { start := if current.length = 0 then index else current.start
          length := current.length + 1 }
      -- Of runs of one length the first one stays.
      longestZeroRun current (if longest.length < current.length then current else longest)
        (index + 1) groups
    else longestZeroRun ⟨0, 0⟩ longest (index + 1) groups

/-- Groups in lower-case hexadecimal, separated by colons. -/
def groupsText (groups : List UInt16) : String :=
  ":".intercalate (groups.map fun group => Hex.shortest .lower group.toNat)

/-- The address in canonical form. -/
def text (ip : Ipv6) : String :=
  match ip.mapped? with
  | some v4 => "::ffff:" ++ v4.text
  | none =>
    let groups := ip.groups.toList
    let run := longestZeroRun ⟨0, 0⟩ ⟨0, 0⟩ 0 groups
    -- A single group of zeros is not worth a double colon.
    if 1 < run.length then
      groupsText (groups.take run.start) ++ "::"
        ++ groupsText (groups.drop (run.start + run.length))
    else groupsText groups

end Ipv6

/-- The address and the port; an IPv6 address stands in brackets, with its scope if it has one. -/
def SocketAddress.text : SocketAddress → String
  | .v4 ip port => ip.text ++ ":" ++ toString port.toNat
  | .v6 ip scope port =>
    let zone := if scope = 0 then "" else "%" ++ toString scope.toNat
    "[" ++ ip.text ++ zone ++ "]:" ++ toString port.toNat

end VehicleLink
