/-!
# The safety gate

While the gate is locked, no request to arm the motors passes to the vehicle. A gate never locks,
or follows a switch that another part of the system throws, or is locked as long as something stands
at an agreed path.
-/

namespace VehicleLink

/-- What stands at a path itself, without following links. -/
inductive PathEntry where
  | absent
  | file
  | directory
  | link
deriving DecidableEq, Repr

/-- A path that can be agreed on for a flag, together with the path that links there lead to. -/
structure FlagPath where
  entry : PathEntry := .absent
  /-- Whether a file stands where links at the path lead. Links do not create or remove it. -/
  hasTarget : Bool := false
deriving DecidableEq, Repr

namespace FlagPath

/-- Whether something is found at the path. A link that leads nowhere is not. -/
def isFound (path : FlagPath) : Bool :=
  match path.entry with
  | .absent => false
  | .file | .directory => true
  | .link => path.hasTarget

/-- The path after an attempt to write a file there, which a directory stands in the way of. What
is written to a link goes to where it leads. -/
def writeFile (path : FlagPath) : FlagPath :=
  match path.entry with
  | .absent | .file => { path with entry := .file }
  | .directory => path
  | .link => { path with hasTarget := true }

/-- The path after an attempt to make a directory there, which succeeds only where nothing is. -/
def makeDirectory (path : FlagPath) : FlagPath :=
  if path.entry = .absent then { path with entry := .directory } else path

/-- The path after an attempt to make a link there, which succeeds only where nothing is. -/
def makeLink (path : FlagPath) : FlagPath :=
  if path.entry = .absent then { path with entry := .link } else path

/-- The path after whatever stood there was taken away. Where a link led stays as it is. -/
def remove (path : FlagPath) : FlagPath := { path with entry := .absent }

end FlagPath

/-- How it is settled whether requests to arm may pass. -/
inductive SafetyGate where
  /-- Requests always pass. -/
  | alwaysOpen
  /-- Requests are held back while the switch is thrown. -/
  | switch
  /-- Requests are held back while something stands at the path. -/
  | flagFile (path : String)
deriving DecidableEq, Repr

namespace SafetyGate

/-- The gate that the configuration asks for: with a path it follows the path, without one it never
locks. -/
def ofLockFile (path : Option String) : SafetyGate :=
  match path with
  | some path => flagFile path
  | none => alwaysOpen

/-- Whether the gate is locked, as far as the switch and the files go at this moment. -/
def isLocked (g : SafetyGate) (thrown : Bool) (isFound : String → Bool) : Bool :=
  match g with
  | alwaysOpen => false
  | switch => thrown
  | flagFile path => isFound path

end SafetyGate

end VehicleLink
