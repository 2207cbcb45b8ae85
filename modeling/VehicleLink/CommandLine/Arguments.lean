import VehicleLink.CommandLine.Choice

/-!
# Reading the command line

Options are written `--name value` or `--name=value`, flags `--name`; an argument without dashes is
the value of the option before it, and `--` ends the options. A value is looked at only when the
next option or the end comes, so that an unknown argument is reported before a value that cannot be
read.
-/

namespace VehicleLink.CommandLine

/-- What an argument looks like. -/
inductive Argument where
  | terminator
  /-- Two dashes, a name, and a value behind an equals sign if there is one. -/
  | long (name : String) (value : Option String)
  | short (letters : List Char)
  | plain (text : String)
deriving DecidableEq, Repr

/-- What an argument looks like, whether or not there is such an option. A single dash alone is a
plain one. -/
def Argument.ofString (text : String) : Argument :=
  match text.toList with
  | ['-', '-'] => .terminator
  | '-' :: '-' :: cs =>
    let name := String.ofList (cs.takeWhile (· ≠ '='))
    match cs.dropWhile (· ≠ '=') with
    | [] => .long name none
    | _ :: value => .long name (some (String.ofList value))
  | '-' :: c :: cs => .short (c :: cs)
  | _ => .plain text

/-- The option whose value is still to be looked at. -/
inductive Pending where
  | nothing
  | awaiting (name : String) (read : String → Except UsageError Choice)
  | given (name : String) (read : String → Except UsageError Choice) (value : String)

/-- What came of the arguments that were read. -/
structure Progress where
  names : List String := []
  choices : List Choice := []
  pending : Pending := .nothing
  ended : Bool := false

namespace Progress

/-- Adds a choice, unless its option came before. -/
def add (p : Progress) (name : String) (choice : Except UsageError Choice) :
    Except UsageError Progress :=
  -- Whether the value can be read does not matter then.
  if name ∈ p.names then .error .repeatedOption
  else do
    let choice ← choice
    return { p with names := name :: p.names, choices := p.choices ++ [choice] }

/-- Looks at the pending option. -/
def settle (p : Progress) : Except UsageError Progress :=
  match p.pending with
  | .nothing => .ok p
  | .awaiting _ _ => .error .missingValue
  | .given name read value => { p with pending := .nothing }.add name (read value)

/-- Reads an option by its name, with the value behind its equals sign. -/
def takeLong (p : Progress) (name : String) (value : Option String) :
    Except UsageError Progress :=
  match CommandLine.choices.lookup name, value with
  | none, _ => .error .unknownArgument
  -- The option before this one is looked at now, so that what is wrong with it is reported first.
  | some (.valued read), none => do
    return { ← p.settle with pending := .awaiting name read }
  | some (.valued read), some value => do (← p.settle).add name (read value)
  | some (.flag _), some _ | some .help, some _ => .error .unexpectedValue
  | some (.flag choice), none => do (← p.settle).add name (.ok choice)
  | some .help, none => do
    let _ ← p.settle
    .error .helpRequested

/-- Reads one argument. Behind the two dashes nothing is accepted, as there is no place for
arguments without options. -/
def take (p : Progress) (argument : Argument) (text : String) : Except UsageError Progress :=
  if p.ended then .error .unknownArgument
  else
    match argument with
    | .terminator => .ok { p with ended := true }
    | .long name value => p.takeLong name value
    | .short letters =>
      if letters.head? = some 'h' then p.takeLong "help" none else .error .unknownArgument
    | .plain _ =>
      match p.pending with
      | .awaiting name read => .ok { p with pending := .given name read text }
      | _ => .error .unknownArgument

end Progress

/-- The choices that the arguments make, in their order. -/
def ofArguments (arguments : List String) : Except UsageError (List Choice) := do
  let p ← arguments.foldlM (fun (p : Progress) text => p.take (.ofString text) text) {}
  return (← p.settle).choices

end VehicleLink.CommandLine
