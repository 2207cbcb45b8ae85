import VehicleLink.Serial.Line

/-!
# A serial line that drains steadily

A stand-in for a serial device: its output buffer loses a fixed number of bytes whenever it is
asked, and one question or one write to come may be set to fail.
-/

namespace VehicleLink

/-- The state of the device. -/
structure TransmitQueue where
  queued : Nat := 0
  /-- The bytes that leave it after every question. -/
  drain : Nat := 0
  /-- The number of questions that succeed before one fails. -/
  failQuery : Option Nat := none
  /-- The number of writes that succeed before one fails. -/
  failWrite : Option Nat := none
deriving DecidableEq, Repr

namespace TransmitQueue

/-- Whether the next use fails, and how many uses succeed before a failure after it. -/
def countdown : Option Nat → Bool × Option Nat
  | none => (false, none)
  | some 0 => (true, none)
  | some (n + 1) => (false, some n)

/-- Asks how many bytes wait. A question that fails drains nothing. -/
def query (q : TransmitQueue) : QueueReading × TransmitQueue :=
  match countdown q.failQuery with
  | (true, rest) => (.failed "query failed", { q with failQuery := rest })
  | (false, rest) => (.bytes q.queued, { q with failQuery := rest, queued := q.queued - q.drain })

/-- Why a write fails now, if it does, and the line after it. -/
def write (q : TransmitQueue) : Option String × TransmitQueue :=
  match countdown q.failWrite with
  | (true, rest) => (some "write failed", { q with failWrite := rest })
  | (false, rest) => (none, { q with failWrite := rest })

/-- The next `count` looks at the buffer, one per `interval`, the first at the time `elapsed`. -/
def pollsFrom (q : TransmitQueue) (interval elapsed : Nat) : Nat → List QueuePoll
  | 0 => []
  | count + 1 =>
    let (reading, q) := q.query
    ⟨reading, elapsed⟩ :: q.pollsFrom interval (elapsed + interval) count

/-- The looks of one wait. They are one more than it can take until the time is up. -/
def polls (q : TransmitQueue) (interval timeout : Nat) : List QueuePoll :=
  q.pollsFrom interval 0 (timeout / interval + 2)

/-- What the device answers while one datagram is treated. -/
def reply (q : TransmitQueue) (interval timeout : Nat) : LineReply where
  polls := q.polls interval timeout
  writeFailure := q.write.1

/-- The device after what was done to it. -/
def after (q : TransmitQueue) : SerialEvent → TransmitQueue
  | .queried _ => q.query.2
  | .wrote _ | .failedToWrite _ => q.write.2

end TransmitQueue

end VehicleLink
