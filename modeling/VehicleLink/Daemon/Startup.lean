import VehicleLink.Address.Printer
import VehicleLink.CommandLine.Arguments
import VehicleLink.CommandLine.Load
import VehicleLink.Files.Tree
import VehicleLink.Log

/-!
# Starting the relay

The relay reads its arguments, opens its log file if it is asked for one, finds its configuration,
says what it will run with and opens the serial device. Whatever fails on the way ends it: wrong
usage with the exit code 2, a panic or a log file that cannot be made with 101, all else with 1.
-/

namespace VehicleLink.Daemon

/-- What starting the relay has to ask its machine, in a monad `m`. -/
structure Machine (m : Type → Type) where
  /-- Opens a log file in a directory, which is made if need be, or tells why that cannot be. -/
  logFailure : String → m (Option FileFailure)
  /-- The text of a file, or why it cannot be read. -/
  fileText : String → m (Except FileFailure String)
  /-- Why a serial device cannot be opened, if it cannot. -/
  serialFailure : String → m (Option FileFailure)

/-- The bytes by which the path of a log file is longer than that of its directory: a slash, the
name `relayd.log`, a dot and a date. -/
def logNameSize : Nat := 22

/-- A machine that has these files and no terminal. -/
def Machine.ofFiles : Machine (StateM FileTree) where
  logFailure directory tree :=
    if FileTree.maxPath < directory.utf8ByteSize + logNameSize then (some .nameTooLong, tree)
    else
      match tree.makeDirectories directory with
      | .ok tree => (none, tree)
      | .error failure => (some failure, tree)
  fileText path tree := (tree.text path, tree)
  serialFailure path tree := (some (tree.terminalFailure path), tree)

/-- What becomes of an attempt to start. -/
inductive Startup where
  /-- The arguments are not accepted, and nothing is logged. -/
  | refused (error : CommandLine.UsageError)
  /-- There is no log file to log to, and nothing is logged. -/
  | unlogged (failure : FileFailure)
  | unconfigured (error : RelayError)
  /-- The program panicked over its configuration, and nothing is logged. -/
  | panicked (panic : Panic)
  | failed (config : Config) (error : RelayError)
  | ready (config : Config)

namespace Startup

/-- Attempts to start with these choices, once it is settled where the log goes. -/
def ofChoices {m : Type → Type} [Monad m] (machine : Machine m)
    (choices : List CommandLine.Choice) : m Startup := do
  match ← (CommandLine.load choices machine.fileText).run with
  | .error error =>
    match error.fault with
    | .error error => return .unconfigured error
    | .panic panic => return .panicked panic
  | .ok config =>
    match ← machine.serialFailure config.serialDevice with
    | some failure => return .failed config (.serial failure.reason)
    | none => return .ready config

/-- Attempts to start. The log file is made first, since all that follows may have to be logged. -/
def ofArguments {m : Type → Type} [Monad m] (machine : Machine m) (arguments : List String) :
    m Startup := do
  match CommandLine.ofArguments arguments with
  | .error error => return .refused error
  | .ok choices =>
    match choices.findSome? CommandLine.Choice.logDir? with
    | none => ofChoices machine choices
    | some directory =>
      match ← machine.logFailure directory with
      | some failure => return .unlogged failure
      | none => ofChoices machine choices

/-- What the relay says it will run with. -/
def banner (config : Config) : List LogLine :=
  [⟨.info, "Telemetry relay starting..."⟩,
   ⟨.info, s!"  Serial: {config.serialDevice} @ {config.baudRate.toNat} baud"⟩,
   ⟨.info, "  UDP: " ++ config.bindAddress.text⟩,
   ⟨.info, "  Primary: " ++ config.primaryAddress.text⟩,
   ⟨.info, "  Inject: " ++ config.injectAddress.text⟩]
  ++ config.rcLockFile.toList.map fun path => ⟨.info, "  RC lock file: " ++ path⟩

/-- The lines that are logged. The banner comes before the device is opened. -/
def lines : Startup → List LogLine
  | refused _ | unlogged _ | panicked _ => []
  | unconfigured error => [⟨.error, "Invalid configuration: " ++ error.message⟩]
  | failed config error => banner config ++ [⟨.error, "Failed to start relay: " ++ error.message⟩]
  | ready config => banner config

/-- The exit code, if the relay does not run. Asking for help is no failure. -/
def exitCode? : Startup → Option UInt32
  | refused .helpRequested => some 0
  | refused _ => some 2
  | unlogged _ | panicked _ => some 101
  | unconfigured _ | failed _ _ => some 1
  | ready _ => none

end Startup

end VehicleLink.Daemon
