/-!
# Socket addresses

Where a datagram comes from or goes to: an IPv4 or IPv6 address and a port.
-/

namespace VehicleLink

/-- An IPv4 address: its four octets. -/
structure Ipv4 where
  a : UInt8
  b : UInt8
  c : UInt8
  d : UInt8
deriving DecidableEq, Repr

/-- An IPv6 address: eight groups of sixteen bits. -/
structure Ipv6 where
  groups : Vector UInt16 8
deriving DecidableEq, Repr

/-- Where a datagram comes from or goes to. Two are the same client only if all their parts
agree. -/
inductive SocketAddress where
  | v4 (ip : Ipv4) (port : UInt16)
  /-- An IPv6 address, the number of the interface it is scoped to or zero, and a port. -/
  | v6 (ip : Ipv6) (scope : UInt32) (port : UInt16)
deriving DecidableEq, Repr

namespace Ipv6

/-- The address with the given groups; missing ones are zero. -/
def ofList (groups : List UInt16) : Ipv6 where
  groups := Vector.ofFn fun i => groups.getD i.val 0

/-- The IPv4 address that is mapped into this address, if it is of that form. -/
def mapped? (ip : Ipv6) : Option Ipv4 :=
  match ip.groups.toList with
  | [0, 0, 0, 0, 0, 0xFFFF, high, low] =>
    some
      { a := (high >>> 8).toUInt8, b := high.toUInt8
        c := (low >>> 8).toUInt8, d := low.toUInt8 }
  | _ => none

end Ipv6

end VehicleLink
