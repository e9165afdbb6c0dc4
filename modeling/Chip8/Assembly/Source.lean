import Chip8.Assembly.Numeral
import Chip8.Assembly.Reader.Lemmas

/-! # Reading sources

A source is read from its start to its end, one statement or comment after another; that ends
because each of them has at least one character. Before anything is read, tabs become blanks.
-/

namespace Chip8.Assembly

/-- The text of a source with tabs replaced by blanks up to the next multiple of eight columns. -/
def expandTabs (column : Nat) : List Char → List Char
  | [] => []
  | c :: rest =>
    if c = '\t' then
      List.replicate (8 - column % 8) ' ' ++ expandTabs (column + (8 - column % 8)) rest
    else if c = '\n' ∨ c = '\r' then c :: expandTabs 0 rest
    else c :: expandTabs (column + 1) rest

def Cursor.statements (cursor : Cursor) : List (Statement (List Char)) :=
  match _found : cursor.next? with
  | none => []
  | some (statement, behind) => statement.toList ++ behind.statements
termination_by cursor.remaining
decreasing_by exact Cursor.next?_remaining_lt _found

/-- The statements of a source, with their numbers as they are written. -/
def readStatements (source : String) : List (Statement (List Char)) :=
  (Cursor.ofText (expandTabs 0 source.toList)).statements

/-- The statements of a source, unless a number in it cannot be read. -/
def read? (source : String) : Option (List (Statement Int)) :=
  (readStatements source).mapM (Statement.mapNumbers? numeralValue?)

end Chip8.Assembly
