import VehicleLink.LittleEndian

/-!
# Whom a message addresses

Some kinds of message name a target system, and most of those a target component, at a fixed place
of their payload. Where the payload is cut off, the field reads as zero, and system zero means
everyone.

* `Targets.ofPayload?_append_zeros` : cutting off trailing zeros does not change the addressee.
-/

namespace VehicleLink

/-- Whom a message addresses. -/
structure Targets where
  /-- The target system, zero for everyone. -/
  system : UInt8
  /-- The target component, if the message kind names one. Zero stands for all of the system. -/
  component : Option UInt8
deriving DecidableEq, Repr

namespace Targets

/-- Where a kind of message names its addressee. -/
structure Place where
  messageId : UInt32
  system : Nat
  /-- The offset of the target component, if the kind has one. -/
  component : Option Nat
deriving DecidableEq, Repr

/-- The places of all kinds that name an addressee. The fields of a payload are ordered by their
size, so that there is no common place. -/
def places : List Place :=
  [ ⟨4, 12, some 13⟩          -- ping
  , ⟨11, 4, none⟩             -- set mode
  , ⟨20, 2, some 3⟩           -- param request read
  , ⟨21, 0, some 1⟩           -- param request list
  , ⟨23, 4, some 5⟩           -- param set
  , ⟨39, 32, some 33⟩         -- mission item
  , ⟨40, 2, some 3⟩           -- mission request
  , ⟨41, 2, some 3⟩           -- mission set current
  , ⟨43, 0, some 1⟩           -- mission request list
  , ⟨44, 2, some 3⟩           -- mission count
  , ⟨45, 0, some 1⟩           -- mission clear all
  , ⟨47, 0, some 1⟩           -- mission ack
  , ⟨51, 2, some 3⟩           -- mission request int
  , ⟨66, 2, some 3⟩           -- request data stream
  , ⟨69, 10, none⟩            -- manual control
  , ⟨70, 16, some 17⟩         -- rc channels override
  , ⟨73, 32, some 33⟩         -- mission item int
  , ⟨75, 30, some 31⟩         -- command int
  , ⟨76, 30, some 31⟩         -- command long
  , ⟨77, 8, some 9⟩           -- command ack
  , ⟨82, 36, some 37⟩         -- set attitude target
  , ⟨84, 50, some 51⟩         -- set position target local ned
  , ⟨86, 50, some 51⟩         -- set position target global int
  , ⟨110, 1, some 2⟩          -- file transfer protocol
  , ⟨111, 16, some 17⟩        -- timesync
  , ⟨117, 4, some 5⟩          -- log request list
  , ⟨119, 10, some 11⟩        -- log request data
  , ⟨123, 0, some 1⟩          -- gps inject data
  , ⟨248, 3, some 4⟩          -- v2 extension
  , ⟨266, 2, some 3⟩          -- logging data
  , ⟨267, 2, some 3⟩          -- logging data acked
  , ⟨268, 2, some 3⟩          -- logging ack
  ]

/-- The addressee of a message, or `none` for a kind that names none. -/
def ofPayload? (messageId : UInt32) (payload : Bytes) : Option Targets :=
  (places.find? fun place => place.messageId == messageId).map fun place =>
    { system := LittleEndian.byteAt payload place.system
      component := place.component.map (LittleEndian.byteAt payload) }

/-- The addressee does not depend on zeros at the end of a payload. -/
theorem ofPayload?_append_zeros (messageId : UInt32) (payload : Bytes) (k : Nat) :
    ofPayload? messageId (payload ++ List.replicate k 0) = ofPayload? messageId payload := by
  have hbyte : LittleEndian.byteAt (payload ++ List.replicate k 0) = LittleEndian.byteAt payload :=
    funext fun offset => LittleEndian.byteAt_append_zeros payload k offset
  simp only [ofPayload?, hbyte]

end Targets

end VehicleLink
