import VehicleLink.Files.Failure

/-!
# A tree of files

A path is a sequence of names with slashes between them. It is followed from the root or from the
current directory, name by name, and a directory has to stand wherever it goes on; this includes a
slash at its end. A single dot stays, and two dots go back.
-/

namespace VehicleLink

/-- What may stand at a place. -/
inductive FileNode where
  /-- A directory, and whether something can be made in it. -/
  | directory (isWritable : Bool)
  | file (text : String)
  /-- A device that gives no text and is no terminal. -/
  | device
  /-- A device that cannot be opened. -/
  | closedDevice
deriving DecidableEq, Repr

/-- The files of a machine. No device among them is a terminal that can be opened. -/
structure FileTree where
  /-- What stands where: the names from the root on, and the node behind them. -/
  nodes : List (List String × FileNode)
  current : List String := []
deriving DecidableEq, Repr

namespace FileTree

/-- The most bytes that a name may have. -/
def maxName : Nat := 255

/-- The most bytes that a path may have, the one that ends it left out. -/
def maxPath : Nat := 4095

/-- What stands at a place. The root is a directory. -/
def node? (tree : FileTree) (place : List String) : Option FileNode :=
  if place = [] then some (.directory true) else tree.nodes.lookup place

/-- Goes from a place to a name in it. A name that is too long is refused before it is looked
for. -/
def step (tree : FileTree) (place : List String) (name : String) :
    Except FileFailure (List String) :=
  match tree.node? place with
  | some (.directory _) =>
    if name = "" || name = "." then .ok place
    else if name = ".." then .ok place.dropLast
    else if maxName < name.utf8ByteSize then .error .nameTooLong
    else if (tree.node? (place ++ [name])).isSome then .ok (place ++ [name])
    else .error .absent
  | _ => .error .notDirectory

/-- The names in a path, with the place where it starts. -/
def names (tree : FileTree) (path : String) : Except FileFailure (List String × List String) :=
  -- The system takes a path to end at a NUL, so that one inside a path is refused before.
  if path.toList.contains '\x00' then .error .nulByte
  else if maxPath < path.utf8ByteSize then .error .nameTooLong
  else if path.isEmpty then .error .absent
  else .ok (path.splitOn "/", if path.startsWith "/" then [] else tree.current)

/-- What stands where a path leads. -/
def find (tree : FileTree) (path : String) : Except FileFailure FileNode := do
  let (names, start) ← tree.names path
  let place ← names.foldlM tree.step start
  match tree.node? place with
  | some node => .ok node
  | none => .error .absent

/-- The text of a file. A directory can be opened, but not read. -/
def text (tree : FileTree) (path : String) : Except FileFailure String := do
  match ← tree.find path with
  | .file text => .ok text
  | .device => .ok ""
  | .directory _ => .error .isDirectory
  | .closedDevice => .error .noDevice

/-- Why a path is no terminal, whatever stands there. -/
def terminalFailure (tree : FileTree) (path : String) : FileFailure :=
  match tree.find path with
  | .error failure => failure
  | .ok (.directory _) => .isDirectory
  | .ok .closedDevice => .noDevice
  | .ok (.file _) | .ok .device => .notTerminal

/-- Goes on from a place to the name, where a directory is made if there is nothing yet. -/
def stepOrMake (tree : FileTree) (place : List String) (name : String) :
    Except FileFailure (FileTree × List String) :=
  match tree.step place name with
  | .ok next => .ok (tree, next)
  | .error .absent =>
    -- Only a directory that may be written to takes a new one.
    if tree.node? place = some (.directory true) then
      let next := place ++ [name]
      .ok ({ tree with nodes := (next, .directory true) :: tree.nodes }, next)
    else .error .denied
  | .error failure => .error failure

/-- The tree with all directories of a path, in the last of which something can be made. -/
def makeDirectories (tree : FileTree) (path : String) : Except FileFailure FileTree := do
  let (names, start) ← tree.names path
  let (tree, place) ← names.foldlM
    (fun (tree, place) name => tree.stepOrMake place name) (tree, start)
  match tree.node? place with
  | some (.directory true) => .ok tree
  | some (.directory false) => .error .denied
  | _ => .error .notDirectory

end FileTree

end VehicleLink
