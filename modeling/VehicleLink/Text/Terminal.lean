import VehicleLink.Text.Hex

/-!
# Text for a terminal

A terminal takes some control characters for commands. Text from outside is shown with those
written out, so that it cannot change what else is on the screen.
-/

namespace VehicleLink.Text.Terminal

/-- Whether a terminal takes the character for a command or for the start of one: the bell, the
backspace, the form feed, the escape, the delete and the control characters beyond ASCII. Tabs and
line breaks only lay text out. -/
def isCommand (c : Char) : Bool :=
  c ∈ ['\x07', '\x08', '\x0c', '\x1b', '\x7f'] || ('\x80' ≤ c && c ≤ '\x9f')

/-- What is shown for a character: a command by its number, which stands in braces beyond ASCII,
and all else as itself. -/
def shownChar (c : Char) : List Char :=
  let number := Hex.digits .lower 2 c.toNat
  if !isCommand c then [c]
  else if c ≤ '\x7f' then '\\' :: 'x' :: number
  else '\\' :: 'u' :: '\x7b' :: number ++ ['\x7d']

/-- The text with its commands written out. -/
def shown (text : String) : String := String.ofList (text.toList.flatMap shownChar)

end VehicleLink.Text.Terminal
