import VehicleLink.CommandLine.Choice
import VehicleLink.Config.File
import VehicleLink.Config.Validation
import VehicleLink.Files.Failure

/-!
# The configuration that the relay runs with

Settings come from the configuration file if the command line names one, and what the command line
chooses goes before them. The outcome has to be usable.
-/

namespace VehicleLink.CommandLine

/-- Why there is no configuration to run with. -/
inductive LoadError where
  | unreadable (failure : FileFailure)
  /-- The file is no configuration. -/
  | file (path : String) (error : Config.FileError)
  | unusable (violation : Config.Violation)
  /-- The settings were too great to be checked. -/
  | panicked (panic : Panic)
deriving DecidableEq, Repr

/-- What the failure is to whoever asked for the configuration. A file is named with what is wrong
with it. -/
def LoadError.fault : LoadError → Fault
  | unreadable failure => .error (.io failure.message)
  | file path error => .error (.config (path ++ ": " ++ error.message))
  | unusable violation => .error (.config violation.message)
  | panicked panic => .panic panic

/-- The settings that the choices start from; `fileText` tells what a file says, or why it cannot be
read. -/
def base {m : Type → Type} [Monad m] (choices : List Choice)
    (fileText : String → m (Except FileFailure String)) : ExceptT LoadError m Config := do
  match choices.findSome? Choice.configFile? with
  | none => return {}
  | some path =>
    match ← fileText path with
    | .error failure => throw (.unreadable failure)
    | .ok text =>
      match Config.ofText text with
      | .error error => throw (.file path error)
      | .ok config => return config

/-- The configuration to run with. It is checked only when it is complete, so that the command line
can mend what the file says. -/
def load {m : Type → Type} [Monad m] (choices : List Choice)
    (fileText : String → m (Except FileFailure String)) : ExceptT LoadError m Config := do
  let config := choices.foldl Config.choose (← base choices fileText)
  match config.violation? with
  | .error panic => throw (.panicked panic)
  | .ok (some violation) => throw (.unusable violation)
  | .ok none => return config

end VehicleLink.CommandLine
