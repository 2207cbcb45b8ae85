import VehicleLink.Text.Hex

/-!
# Errors on the wire

Why bytes are no frame and no aggregate datagram, and why a frame cannot join an aggregate.
-/

namespace VehicleLink

/-- Why bytes were refused on the way in, or a frame on its way into an aggregate. -/
inductive WireError where
  /-- The bytes end before their header does. -/
  | tooShort (length : Nat)
  /-- The first byte starts no frame. -/
  | badMarker (marker : UInt8)
  /-- The length differs from the one that the header announces. -/
  | badLength (expected actual : Nat)
  /-- The aggregate has less room left than the frame needs. -/
  | aggregateOverflow (needed remaining : Nat)
  /-- The frame is longer than any aggregate payload may be. -/
  | frameTooLarge (length limit : Nat)
deriving DecidableEq, Repr

namespace WireError

/-- The text of the error, with the lengths that did not fit. -/
def message : WireError → String
  | tooShort length => s!"Datagram too short: {length} bytes"
  | badMarker marker => "Unknown start marker: 0x" ++ Hex.numeral .upper 2 marker.toNat
  | badLength expected actual => s!"Invalid frame length: expected {expected}, got {actual}"
  | aggregateOverflow needed remaining =>
    s!"Aggregate overflow: need {needed} bytes, {remaining} remaining"
  | frameTooLarge length limit =>
    s!"Frame of {length} bytes exceeds aggregate payload limit {limit}"

end WireError

end VehicleLink
