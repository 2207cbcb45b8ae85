import VehicleLink.Table

/-!
# Gaps in the vehicle's streams

Every component of the vehicle numbers its frames modulo 256. A frame whose number does not follow
on the one before is a gap: something was lost on the line. A stream is followed from its first
frame with a right checksum on, and then through all frames, because only one of its kind can carry
the next number.
-/

namespace VehicleLink

/-- A component of a system, as the header of a frame names it. -/
structure Source where
  system : UInt8
  component : UInt8
deriving DecidableEq, Repr

namespace Source

/-- Sources in the order of their systems, and those of a system in the order of their
components. -/
def le (a b : Source) : Bool :=
  a.system < b.system || (a.system == b.system && a.component ≤ b.component)

end Source

/-- What is remembered of the frames of one source. -/
structure Stream where
  last : UInt8
  gaps : Nat := 0
  /-- The gaps that were not reported yet. -/
  unreported : Nat := 0
deriving DecidableEq, Repr

/-- Whether a number does not follow on the last one, modulo 256. -/
def Stream.isGap (s : Stream) (sequence : UInt8) : Bool := sequence != s.last + 1

/-- Goes on with the next frame. A gap is counted once, however many frames are missing. -/
def Stream.advance (s : Stream) (sequence : UInt8) : Stream :=
  let missed := if s.isGap sequence then 1 else 0
  { last := sequence, gaps := s.gaps + missed, unreported := s.unreported + missed }

/-- The streams that are followed, each under its source. -/
structure Streams where
  table : Table Source Stream := ∅
deriving DecidableEq

namespace Streams

instance : EmptyCollection Streams where
  emptyCollection := {}

/-- The stream of a source, if it is followed. -/
def get? (s : Streams) (source : Source) : Option Stream := s.table.get? source

/-- Whether a frame would leave a gap in the stream of its source. Without a stream there is
none. -/
def isGap (s : Streams) (source : Source) (sequence : UInt8) : Bool :=
  (s.get? source).any fun stream => stream.isGap sequence

/-- Takes note of a frame. -/
def observe (s : Streams) (source : Source) (sequence : UInt8) (checksumOk : Bool) : Streams where
  table :=
    -- Once followed, a stream goes on with every frame; only its first one has to be trusted.
    if s.table.contains source then s.table.modify source fun stream => stream.advance sequence
    else if checksumOk then s.table.insertIfNew source { last := sequence }
    else s.table

/-- The sources with unreported gaps, in order, and the number of these. -/
def unreported (s : Streams) : List (Source × Nat) :=
  ((s.table.entries.map fun e => (e.1, e.2.unreported)).filter fun e => 0 < e.2).mergeSort
    fun a b => a.1.le b.1

/-- The streams after a report: the gaps stay counted and count as reported. -/
def markReported (s : Streams) : Streams where
  table := s.table.map fun _ stream => { stream with unreported := 0 }

end Streams

end VehicleLink
