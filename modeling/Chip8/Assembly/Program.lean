import Chip8.Assembly.Draft
import Chip8.Assembly.Source

/-! # Programs

Assembling turns named source texts into the bytes of one program. The first pass drafts the modules
one after another; the second fills in the links, for which the labels of all modules are known.
-/

namespace Chip8.Assembly

/-- A source text and the name under which other sources refer to its labels. -/
structure SourceModule where
  name : String
  text : String
deriving DecidableEq, Repr

def SourceModule.statements (source : SourceModule) :
    Except AssemblyError (List (Statement Int)) :=
  match read? source.text with
  | some statements => .ok statements
  | none => .error .unreadableNumber

namespace Draft

/-- Adds the statements of a source, which is read as a whole first. -/
def addModule (draft : Draft) (source : SourceModule) : Except AssemblyError Draft := do
  let statements ← source.statements
  { draft with scope := source.name }.addStatements statements

/-- The bytes of a piece, with its link filled in. -/
def linkPiece (draft : Draft) : Piece → Except AssemblyError (List UInt8)
  | .bytes data => .ok data
  | .link base mask target =>
    match draft.find? target with
    | none => .error (.rejected (.undefinedLabel target))
    | some address => wordBytes? (Numeric.joinBits base (Numeric.keepBits address mask))

def link (draft : Draft) : Except AssemblyError (List UInt8) := do
  let parts ← draft.pieces.toList.mapM draft.linkPiece
  .ok parts.flatten

end Draft

def draft (sources : List SourceModule) : Except AssemblyError Draft :=
  sources.foldlM Draft.addModule Draft.empty

def assemble (sources : List SourceModule) : Except AssemblyError (List UInt8) := do
  let program ← (← draft sources).link
  if maxProgramSize < program.length then
    .error (.rejected (.programTooLarge program.length))
  else .ok program

/-- What there is to report about drafting sources, up to the first error. -/
def draftNotices (before : Draft) : List SourceModule → List Notice
  | [] => []
  | source :: rest =>
    let current := { before with scope := source.name }
    ⟨.info, s!"Processing {source.name}"⟩ ::
      match source.statements with
      | .error _ => []
      | .ok statements =>
        current.statementsNotices statements ++
          match current.addStatements statements with
          | .error _ => []
          | .ok next => draftNotices next rest

def assembleNotices (sources : List SourceModule) : List Notice := draftNotices .empty sources

end Chip8.Assembly
