import Chip8.Text.Integer
import Chip8.Text.Quoted

/-! # Errors in documents

What can be wrong with a document, and where.
-/

namespace Chip8.Toml

/-- A dotted name, part by part. -/
abbrev Path := List String

/-- What is wrong with a document. -/
inductive Defect where
  | invalidStatement
  | missingLineEnd
  | invalidKey
  | missingEquals
  | invalidValue
  | invalidDate
  | missingQuotes (quotes : String)
  | unterminatedString
  | illegalCharacter (c : Char)
  | invalidCharacter (c : Char)
  | strayBackslash
  | invalidHexValue
  | notAScalar
  | unclosedArray
  | unclosedInlineTable
  | unclosedTableHeader
  | unclosedListHeader
  | overwritten
  | duplicateKey (name : String)
  | declaredTwice (path : Path)
  | immutable (path : Path)
  | redefined (path : Path)
  /-- A whole number has more digits than can be read. -/
  | tooManyDigits (count : Nat)
  /-- Lists and tables lie too deep within each other. -/
  | tooDeep
deriving DecidableEq, Repr

/-- A defect and the number of characters from its place to the end of the document. -/
structure Error where
  defect : Defect
  remaining : Nat
deriving DecidableEq, Repr

/-- A path as messages show it: quoted parts in parentheses. -/
def pathText (path : Path) : String :=
  match path with
  | [name] => "(" ++ Text.quoted name ++ ",)"
  | names => "(" ++ ", ".intercalate (names.map Text.quoted) ++ ")"

def Defect.message : Defect → String
  | .invalidStatement => "Invalid statement"
  | .missingLineEnd => "Expected newline or end of document after a statement"
  | .invalidKey => "Invalid initial character for a key part"
  | .missingEquals => "Expected '=' after a key in a key/value pair"
  | .invalidValue => "Invalid value"
  | .invalidDate => "Invalid date or datetime"
  | .missingQuotes quotes => "Expected " ++ Text.quoted quotes
  | .unterminatedString => "Unterminated string"
  | .illegalCharacter c => "Illegal character " ++ Text.quoted c.toString
  | .invalidCharacter c => "Found invalid character " ++ Text.quoted c.toString
  | .strayBackslash => "Unescaped '\\' in a string"
  | .invalidHexValue => "Invalid hex value"
  | .notAScalar => "Escaped character is not a Unicode scalar value"
  | .unclosedArray => "Unclosed array"
  | .unclosedInlineTable => "Unclosed inline table"
  | .unclosedTableHeader => "Expected ']' at the end of a table declaration"
  | .unclosedListHeader => "Expected ']]' at the end of an array declaration"
  | .overwritten => "Cannot overwrite a value"
  | .duplicateKey name => "Duplicate inline table key " ++ Text.quoted name
  | .declaredTwice path => "Cannot declare " ++ pathText path ++ " twice"
  | .immutable path => "Cannot mutate immutable namespace " ++ pathText path
  | .redefined path => "Cannot redefine namespace " ++ pathText path
  | .tooManyDigits count => Text.tooManyDigitsText count
  | .tooDeep => "maximum recursion depth exceeded"

def Error.place (error : Error) (document : List Char) : String :=
  if error.remaining = 0 then "end of document"
  else
    let before := document.take (document.length - error.remaining)
    let line := before.count '\n' + 1
    let column := (before.reverse.takeWhile (· != '\n')).length + 1
    s!"line {line}, column {column}"

/-- The text that describes an error in a document. Defects that are a matter of size have no place.
-/
def Error.message (error : Error) (document : List Char) : String :=
  match error.defect with
  | .tooManyDigits count => (Defect.tooManyDigits count).message
  | .tooDeep => Defect.tooDeep.message
  | defect => s!"{defect.message} (at {error.place document})"

end Chip8.Toml
