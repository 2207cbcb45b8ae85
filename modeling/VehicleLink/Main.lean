import VehicleLink.Daemon.Startup

/-!
# The command line

The program starts as far as the terminal device allows, logs to standard error and ends with the
exit code of what became of it. It opens no sockets: what the workers do once they are open is in
`VehicleLink.Relay`.
-/

namespace VehicleLink.Daemon

/-- Why the system could not use a path. Some calls give the number of a failure with a minus. -/
def failureOf : IO.Error → FileFailure
  | .noFileOrDirectory _ _ _ => .absent
  | .permissionDenied _ _ _ => .denied
  | .noSuchThing _ _ _ => .noDevice
  | .inappropriateType _ code _ => if code ∈ [20, -20] then .notDirectory else .isDirectory
  | .invalidArgument _ code _ => if code ∈ [36, -36] then .nameTooLong else .nulByte
  | error => .other (toString error)

/-- Opens the log file in a directory. There is one for all days. -/
def openLog (directory : String) : IO IO.FS.Handle := do
  IO.FS.createDirAll directory
  IO.FS.Handle.mk (directory ++ "/relayd.log") .append

/-- The machine that the program runs on. -/
def thisMachine : Machine IO where
  logFailure directory := do
    try
      let _ ← openLog directory
      return none
    catch error => return some (failureOf error)
  fileText path := do
    try
      return .ok (← IO.FS.readFile path)
    catch error => return .error (failureOf error)
  serialFailure path := do
    try
      let handle ← IO.FS.Handle.mk path .readWrite
      return if ← handle.isTty then none else some .notTerminal
    catch error => return some (failureOf error)

/-- Logs the lines to standard error, and to a file if the arguments ask for one. -/
def log (arguments : List String) (lines : List LogLine) : IO Unit := do
  for line in lines do
    IO.eprintln line.shown
  let choices := (CommandLine.ofArguments arguments).toOption.getD []
  if let some directory := choices.findSome? CommandLine.Choice.logDir? then
    if !lines.isEmpty then
      let file ← openLog directory
      for line in lines do
        file.putStrLn line.shown

end VehicleLink.Daemon

/-- Starts, says what became of it and ends with its exit code. -/
def main (arguments : List String) : IO UInt32 := do
  let startup ← VehicleLink.Daemon.Startup.ofArguments VehicleLink.Daemon.thisMachine arguments
  match startup with
  | .refused .helpRequested => IO.println VehicleLink.CommandLine.usage
  | .refused error => IO.eprintln error.message
  | .unlogged failure => IO.eprintln ("no log file can be made: " ++ failure.message)
  | .panicked panic => IO.eprintln panic.message
  | _ => VehicleLink.Daemon.log arguments startup.lines
  match startup.exitCode? with
  | some code => return code
  | none =>
    IO.eprintln "ERROR Failed to start relay: Socket init error: this program opens no sockets"
    return 1
