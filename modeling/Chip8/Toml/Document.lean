import Chip8.Toml.Nested

/-! # Documents

A document is a row of statements, each on a line of its own: a header opens a table or adds a table
to a list, and a key with a value adds an entry to the table that was opened last. `Outline` keeps
what the statements so far have built, and which of its parts are closed to later statements.
-/

namespace Chip8.Toml

/-- What the statements read so far have built. -/
structure Outline where
  entries : Entries
  /-- The path of the table that was opened last. -/
  header : Path
  /-- The paths of tables that no later header may open. -/
  declared : List Path
  /-- The paths of values that are complete, with all that lies below them. -/
  frozen : List Path
  /-- The paths that count as declared from the next header on. -/
  pending : List Path
deriving Repr

namespace Outline

def empty : Outline := ⟨[], [], [], [], []⟩

/-- The outline in which the tables that dotted keys have created count as declared. -/
def settled (outline : Outline) : Outline :=
  { outline with declared := outline.pending ++ outline.declared, pending := [] }

/-- Opens the table at the end of a path, which is created unless it is there. -/
def openTable (outline : Outline) (path : Path) : Except Defect Outline :=
  if outline.declared.contains path || isFrozen outline.frozen path then
    .error (.declaredTwice path)
  else
    (outline.entries.modifyAt? true .ok path).map fun entries =>
      { outline with entries := entries, header := path, declared := path :: outline.declared }

/-- A list with an empty table added to the end; a list that is missing is created. -/
def appendTable (name : String) (entries : Entries) : Except Defect Entries :=
  match entries.find? name with
  | none => .ok (entries.put name (.list [.table []]))
  | some (.list items) => .ok (entries.put name (.list (items ++ [.table []])))
  | some _ => .error .overwritten

/-- Adds an empty table to the list at the end of a path and opens it. What was said of the table
before it, or of any part of that, does not hold of the new one. -/
def openItem (outline : Outline) (path : Path) : Except Defect Outline :=
  if isFrozen outline.frozen path then .error (.immutable path)
  else
    let elsewhere (other : Path) : Bool := !path.isPrefixOf other
    (outline.entries.modifyAt? true (appendTable (path.getLastD "")) path.dropLast).map
      fun entries =>
        { outline with
          entries := entries
          header := path
          declared := path :: outline.declared.filter elsewhere
          frozen := outline.frozen.filter elsewhere }

/-- Adds an entry to the table that was opened last. A dotted key goes through tables that it may
create, and that no header has declared. -/
def addEntry (outline : Outline) (path : Path) (entry : Value) : Except Defect Outline :=
  let passed := (List.range (path.length - 1)).map fun count =>
    outline.header ++ path.take (count + 1)
  let parent := outline.header ++ path.dropLast
  let name := path.getLastD ""
  match passed.find? outline.declared.contains with
  | some table => .error (.redefined table)
  | none =>
    if isFrozen outline.frozen parent then .error (.immutable parent)
    else
      let add (inner : Entries) : Except Defect Entries :=
        if (inner.find? name).isSome then .error .overwritten else .ok (inner.put name entry)
      (outline.entries.modifyAt? true add parent).map fun entries =>
        { outline with
          entries := entries
          frozen := if entry.holdsValues then (outline.header ++ path) :: outline.frozen
            else outline.frozen
          pending := passed ++ outline.pending }

end Outline

/-! ## Statements -/

def tableHeader (outline : Outline) (cs : List Char) : Except Error (Outline × List Char) := do
  let (path, rest) ← key (skipBlanks cs)
  let outline ← atPlace rest (outline.openTable path)
  match rest with
  | ']' :: behind => .ok (outline, behind)
  | rest => failAt rest .unclosedTableHeader

def itemHeader (outline : Outline) (cs : List Char) : Except Error (Outline × List Char) := do
  let (path, rest) ← key (skipBlanks cs)
  let outline ← atPlace rest (outline.openItem path)
  match rest with
  | ']' :: ']' :: behind => .ok (outline, behind)
  | rest => failAt rest .unclosedListHeader

def entry (outline : Outline) (cs : List Char) : Except Error (Outline × List Char) := do
  let (path, rest) ← keyBeforeValue cs
  let (value, rest) ← anyValue rest
  let outline ← atPlace rest (outline.addEntry path value)
  .ok (outline, rest)

/-- The statement that starts here. A line may hold no more than a comment. -/
def statement (outline : Outline) (cs : List Char) : Except Error (Outline × List Char) :=
  match cs with
  | '[' :: '[' :: rest => itemHeader outline.settled rest
  | '[' :: rest => tableHeader outline.settled rest
  | '#' :: rest => .ok (outline, '#' :: rest)
  | cs => if cs.head?.any startsKey then entry outline cs else failAt cs .invalidStatement

/-- What the statements from here on build. The bound is greater than the length of the text. -/
def statements : Nat → Outline → List Char → Except Error Outline
  | 0, _, cs => failAt cs .invalidStatement
  | bound + 1, outline, cs =>
    match skipBlanks cs with
    | [] => .ok outline
    | '\n' :: rest => statements bound outline rest
    | cs => do
      let (outline, behind) ← statement outline cs
      match ← skipComment (skipBlanks behind) with
      | [] => .ok outline
      | '\n' :: rest => statements bound outline rest
      | behind => failAt behind .missingLineEnd

def readDocument (text : List Char) : Except Error Entries :=
  (statements (text.length + 1) .empty text).map (·.entries)

end Chip8.Toml
