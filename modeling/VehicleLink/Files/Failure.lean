/-!
# Why files cannot be used

What the system says when a path leads to nothing that can be read, written or used as a serial
device.
-/

namespace VehicleLink

/-- What stands in the way of using a path. -/
inductive FileFailure where
  | absent
  /-- What belongs to the device is missing. -/
  | noDevice
  | denied
  /-- The path goes on behind something that is no directory. -/
  | notDirectory
  | isDirectory
  /-- What stands at the path is no terminal. -/
  | notTerminal
  /-- The path or a name in it is too long. -/
  | nameTooLong
  /-- A path cannot hold a NUL. -/
  | nulByte
  | other (reason : String)
deriving DecidableEq, Repr

namespace FileFailure

/-- The number that the system gives the failure. -/
def code : FileFailure → Nat
  | absent => 2
  | other _ => 5
  | noDevice => 6
  | denied => 13
  | notDirectory => 20
  | isDirectory => 21
  | nulByte => 22
  | notTerminal => 25
  | nameTooLong => 36

/-- The system's words for the failure. -/
def reason : FileFailure → String
  | absent => "No such file or directory"
  | noDevice => "No such device or address"
  | denied => "Permission denied"
  | notDirectory => "Not a directory"
  | isDirectory => "Is a directory"
  | notTerminal => "Not a typewriter"
  | nameTooLong => "File name too long"
  | nulByte => "Invalid argument"
  | other reason => reason

/-- What is said about a file: the reason and its number. A path with a NUL is refused before the
system sees it, so that this has no number. -/
def message : FileFailure → String
  | nulByte => "file name contained an unexpected NUL byte"
  | failure => s!"{failure.reason} (os error {failure.code})"

end FileFailure

end VehicleLink
