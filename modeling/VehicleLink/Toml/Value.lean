/-!
# Values of a document

A table remembers how it came into the document, because that decides what may be added to it later.
Floating-point numbers and moments are recognised, but no setting is one, so what they say is not
kept.
-/

namespace VehicleLink.Toml

/-- How a table came into a document. -/
inductive Origin where
  /-- It has a header, or is the document itself. -/
  | header
  /-- It was named on the way to a table with a header. -/
  | passed
  /-- It was named on the way to the last part of a dotted key. -/
  | dottedKey
  | braces
deriving DecidableEq, Repr

/-- What a key may have for a value. -/
inductive Value where
  | string (text : String)
  | integer (n : Int)
  | float
  | boolean (b : Bool)
  /-- A date, a time of day or both. -/
  | moment
  | array (items : List Value)
  | table (origin : Origin) (entries : List (String × Value))
  /-- An array of tables with headers of their own, the latest first. -/
  | tables (items : List (List (String × Value)))

/-- The names in a table with their values, in the order in which they came in. -/
abbrev Entries := List (String × Value)

namespace Entries

/-- The value of a name. -/
def get? (entries : Entries) (name : String) : Option Value := entries.lookup name

/-- Gives a key a value, in place of the one it has. -/
def set (entries : Entries) (name : String) (value : Value) : Entries :=
  if (entries.get? name).isSome then
    entries.map fun entry => if entry.1 = name then (name, value) else entry
  else entries ++ [(name, value)]

/-- Changes the table at the end of the path, which starts at a table of the given origin. Tables
that are missing on the way come in as `missing`. A table in braces is complete; one with a header
is not entered by a dotted key; of an array of tables the latest is meant. -/
def update (missing : Origin) (change : Origin → Entries → Option Entries) (origin : Origin)
    (entries : Entries) : List String → Option Entries
  | [] => change origin entries
  | name :: path =>
    match entries.get? name with
    | none => do
      let inner ← update missing change missing [] path
      return entries.set name (.table missing inner)
    | some (.table origin inner) =>
      -- A table in braces was complete at its closing brace.
      if origin = .braces || (origin = .header && missing = .dottedKey) then none
      else do
        let inner ← update missing change origin inner path
        return entries.set name (.table origin inner)
    | some (.tables (latest :: earlier)) => do
      let latest ← update missing change .header latest path
      return entries.set name (.tables (latest :: earlier))
    | some _ => none

end Entries

/-- A dotted key: the way to a table, and a name in it. -/
structure Key where
  /-- The names of the tables on the way. -/
  path : List String
  name : String
deriving DecidableEq, Repr

namespace Entries

/-- Adds a value under a dotted key. A dotted key that leads somewhere leads to a table which only
dotted keys have named, and no key gets two values. -/
def assign (origin : Origin) (entries : Entries) (key : Key) (value : Value) : Option Entries :=
  update .dottedKey
    (fun origin entries =>
      -- Dotted keys end in tables of dotted keys, and a plain key stays in the table at hand.
      if decide (origin = .dottedKey) == key.path.isEmpty then none
      else if (entries.get? key.name).isSome then none
      else some (entries.set key.name value))
    origin entries key.path

/-- Adds the table of a header, which may have been passed on the way to others before. -/
def declare (entries : Entries) (key : Key) : Option Entries :=
  update .passed
    (fun _ entries =>
      match entries.get? key.name with
      | none => some (entries.set key.name (.table .header []))
      | some (.table .passed inner) => some (entries.set key.name (.table .header inner))
      | some _ => none)
    .header entries key.path

/-- Adds one more table to an array of tables, which its first header opens. -/
def declareItem (entries : Entries) (key : Key) : Option Entries :=
  update .passed
    (fun _ entries =>
      match entries.get? key.name with
      | none => some (entries.set key.name (.tables [[]]))
      | some (.tables items) => some (entries.set key.name (.tables ([] :: items)))
      | some _ => none)
    .header entries key.path

end Entries

end VehicleLink.Toml
