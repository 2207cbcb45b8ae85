import VehicleLink.Toml.Statement

/-!
# Documents

A document is a table that its statements build up one after the other: an assignment adds to the
table of the header before it.
-/

namespace VehicleLink.Toml

/-- A document of which some statements were read. -/
structure Draft where
  /-- What the document says so far. -/
  entries : Entries := []
  /-- The way to the table that assignments add to. -/
  current : List String := []

/-- What a statement adds. Nothing comes of a statement that does not fit what is there. -/
def Draft.extend (draft : Draft) : Statement → Option Draft
  | .blank => some draft
  | .assign key value => do
    let entries ← draft.entries.update .passed
      (fun origin entries => entries.assign origin key value) .header draft.current
    return { draft with entries }
  | .table key => do
    return { entries := ← draft.entries.declare key, current := key.path ++ [key.name] }
  | .item key => do
    -- The path to an array of tables leads to its latest table from here on.
    return { entries := ← draft.entries.declareItem key, current := key.path ++ [key.name] }

/-- What a text says, if it is a document. -/
def ofText? (text : String) : Option Entries := do
  let statements ← lines? text
  let draft ← statements.foldlM Draft.extend {}
  return draft.entries

end VehicleLink.Toml
