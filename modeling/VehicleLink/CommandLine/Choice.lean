import VehicleLink.Address.Parser
import VehicleLink.Config.Basic

/-!
# What can be chosen on the command line

A `Choice` is an option together with its value. `choices` lists the names of the options and how
the value of each is read; `Config.choose` puts a choice into a configuration.
-/

namespace VehicleLink

namespace CommandLine

/-- Why the arguments are not accepted. -/
inductive UsageError where
  /-- There is no such option, or no place for an argument that belongs to none. -/
  | unknownArgument
  /-- An option has no value, or an empty one where that means nothing. -/
  | missingValue
  | unreadableValue
  | repeatedOption
  | unexpectedValue
  | helpRequested
deriving DecidableEq, Repr

/-- An option with its value. -/
inductive Choice where
  /-- Settings are read from a file. -/
  | config (path : String)
  | serial (device : String)
  | baud (rate : UInt32)
  | flowControl
  | bind (address : SocketAddress)
  | primary (address : SocketAddress)
  | inject (address : SocketAddress)
  /-- The path whose presence locks the safety gate. -/
  | rcLockFile (path : String)
  /-- The system clock is set from the vehicle's time. -/
  | setSystemClock
  | clientTimeoutMs (millis : UInt64)
  | flushIntervalMs (millis : UInt64)
  | statsIntervalMs (millis : UInt64)
  | logDir (path : String)
deriving DecidableEq

/-- What may follow the name of an option. -/
inductive Form where
  | flag (choice : Choice)
  | valued (read : String → Except UsageError Choice)
  | help

/-- The number below `size` that is written in decimal, behind one of the given signs or without.
Zero alone may have a minus. -/
def number? (signs : List Char) (size : Nat) (text : String) : Option Nat := do
  let (sign, cs) := Text.optional (Text.oneOf signs) text.toList
  let digits ← Text.whole? (Text.many1 (Text.digit 10)) cs
  let n := Text.ofDigits 10 digits
  if size ≤ n || (sign = some '-' && n ≠ 0) then none
  return n

/-- An option whose value must be readable. -/
def readable {α : Type} (read? : String → Option α) (choose : α → Choice) : Form :=
  .valued fun text =>
    match read? text with
    | some value => .ok (choose value)
    | none => .error .unreadableValue

/-- A path, which has at least one character. -/
def path (choose : String → Choice) : Form :=
  .valued fun text => if text.isEmpty then .error .missingValue else .ok (choose text)

/-- An option with a word of 32 bits. A minus is read, but leaves no number but zero. -/
def word32 (choose : UInt32 → Choice) : Form :=
  readable (fun text => (number? ['+', '-'] UInt32.size text).map UInt32.ofNat) choose

/-- A word of 64 bits, which has no minus. -/
def word64 (choose : UInt64 → Choice) : Form :=
  readable (fun text => (number? ['+'] UInt64.size text).map UInt64.ofNat) choose

/-- An option with an address. -/
def address (choose : SocketAddress → Choice) : Form := readable SocketAddress.ofString? choose

/-- The names of all options, each with what may follow it. -/
def choices : List (String × Form) :=
  [("config", path .config),
   ("serial", .valued fun text => .ok (.serial text)),
   ("baud", word32 .baud),
   ("flow-control", .flag .flowControl),
   ("bind", address .bind),
   ("primary", address .primary),
   ("inject", address .inject),
   ("rc-lock-file", path .rcLockFile),
   ("set-system-clock", .flag .setSystemClock),
   ("client-timeout-ms", word64 .clientTimeoutMs),
   ("flush-interval-ms", word64 .flushIntervalMs),
   ("stats-interval-ms", word64 .statsIntervalMs),
   ("log-dir", path .logDir),
   ("help", .help)]

/-- The options by their names, as they are shown to whoever asks for help. -/
def usage : String :=
  "Options:\n"
    ++ String.join (choices.map fun (name, form) =>
      match form with
      | .valued _ => "      --" ++ name ++ " <VALUE>\n"
      | _ => "      --" ++ name ++ "\n")

/-- What is said about arguments that are not accepted. -/
def UsageError.message : UsageError → String
  | unknownArgument => "error: unexpected argument"
  | missingValue => "error: a value is required"
  | unreadableValue => "error: invalid value"
  | repeatedOption => "error: an option cannot be used multiple times"
  | unexpectedValue => "error: a flag takes no value"
  | helpRequested => usage

/-- The file to read settings from, if this chooses one. -/
def Choice.configFile? : Choice → Option String
  | config path => some path
  | _ => none

/-- The directory to log to, if this chooses one. -/
def Choice.logDir? : Choice → Option String
  | logDir path => some path
  | _ => none

end CommandLine

/-- The configuration with a choice in it. Where the settings come from and where logs go is no part
of it. -/
def Config.choose (c : Config) : CommandLine.Choice → Config
  | .serial device => { c with serialDevice := device }
  | .baud rate => { c with baudRate := rate }
  | .flowControl => { c with hardwareFlowControl := true }
  | .bind address => { c with bindAddress := address }
  | .primary address => { c with primaryAddress := address }
  | .inject address => { c with injectAddress := address }
  | .rcLockFile path => { c with rcLockFile := some path }
  | .setSystemClock => { c with setSystemClock := true }
  | .clientTimeoutMs millis => { c with clientTimeoutMs := millis }
  | .flushIntervalMs millis => { c with flushIntervalMs := millis }
  | .statsIntervalMs millis => { c with statsIntervalMs := millis }
  | .config _ | .logDir _ => c

end VehicleLink
