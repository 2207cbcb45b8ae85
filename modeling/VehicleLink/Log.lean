import VehicleLink.Text.Terminal

/-!
# Log lines

What the relay reports while it runs: a level and a text.
-/

namespace VehicleLink

/-- How much a line matters. -/
inductive LogLevel where
  /-- Ordinary progress. -/
  | info
  | warn
  | error
deriving DecidableEq, Repr

/-- The level as the log spells it. -/
def LogLevel.text : LogLevel → String
  | info => "INFO"
  | warn => "WARN"
  | error => "ERROR"

structure LogLine where
  level : LogLevel
  text : String
deriving DecidableEq, Repr

/-- The line with its level in front. -/
def LogLine.render (line : LogLine) : String := line.level.text ++ " " ++ line.text

/-- The line as the daemon logs it, where an operator may read it on a terminal. -/
def LogLine.shown (line : LogLine) : String :=
  line.level.text ++ " " ++ Text.Terminal.shown line.text

end VehicleLink
