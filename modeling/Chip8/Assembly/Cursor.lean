import Chip8.Registers
import Chip8.Text.WordCharacter

/-! # Reading tokens

A cursor is a place in a source: the character before it and the text from it on. Every token may be
preceded by blanks. Reading a token either moves the cursor behind it or fails; `remaining` never
grows, and it shrinks where a token has at least one character.
-/

namespace Chip8.Assembly

/-- A place in a source. -/
structure Cursor where
  /-- The character before the place; a line feed at the start of the source. -/
  before : Char
  rest : List Char
deriving DecidableEq, Repr

/-- Whether a character may stand between tokens. -/
def isSpace (c : Char) : Bool := c == ' ' || c == '\n' || c == '\r' || c == '\t'

def isNameStart (c : Char) : Bool := c.isAlpha || c == '_'

def isNameChar (c : Char) : Bool := c.isAlphanum || c == '_'

/-- Whether a character next to a keyword keeps it from being one. -/
def joinsKeyword (c : Char) : Bool := c.isAlphanum || c == '_' || c == '$'

def isHexDigit (c : Char) : Bool := c.isDigit || ('a' ≤ c && c ≤ 'f') || ('A' ≤ c && c ≤ 'F')

def isBinaryDigit (c : Char) : Bool := c == '0' || c == '1'

namespace Cursor

def ofText (text : List Char) : Cursor := ⟨'\n', text⟩

def remaining (cursor : Cursor) : Nat := cursor.rest.length

/-- Passes the characters that satisfy a test, up to the first that does not. -/
def passWhile (test : Char → Bool) (before : Char) : List Char → List Char × Cursor
  | [] => ([], ⟨before, []⟩)
  | c :: rest =>
    if test c then
      let (passed, cursor) := passWhile test c rest
      (c :: passed, cursor)
    else ([], ⟨before, c :: rest⟩)

/-- The longest run of characters that satisfy a test, and the place behind it. -/
def run (cursor : Cursor) (test : Char → Bool) : List Char × Cursor :=
  passWhile test cursor.before cursor.rest

/-- The place of the next character that is not a blank. -/
def skipSpace (cursor : Cursor) : Cursor := (cursor.run isSpace).2

/-- The place behind a text that stands exactly here. -/
def exactly? (cursor : Cursor) : List Char → Option Cursor
  | [] => some cursor
  | expected :: more =>
    match cursor.rest with
    | c :: rest => if c = expected then exactly? ⟨c, rest⟩ more else none
    | [] => none

def symbol? (cursor : Cursor) (mark : String) : Option Cursor :=
  cursor.skipSpace.exactly? mark.toList

/-- The place behind a keyword, which must not touch characters that could belong to it. -/
def keyword? (cursor : Cursor) (word : String) : Option Cursor :=
  let start := cursor.skipSpace
  if joinsKeyword start.before then none
  else
    match start.exactly? word.toList with
    | some behind => if behind.rest.head?.any joinsKeyword then none else some behind
    | none => none

def name? (cursor : Cursor) : Option (String × Cursor) :=
  let start := cursor.skipSpace
  if start.rest.head?.any isNameStart then
    let (text, behind) := start.run isNameChar
    some (String.ofList text, behind)
  else none

/-- The digits behind a two-character marker at the start of a text, if there are any. -/
def markedDigits? (start : Cursor) (isMark test : Char → Bool) : Option (List Char × Cursor) :=
  match start.rest with
  | '0' :: mark :: rest =>
    if isMark mark then
      match passWhile test mark rest with
      | ([], _) => none
      | (digits, behind) => some ('0' :: mark :: digits, behind)
    else none
  | _ => none

/-- The text of a number and the place behind it: a marker of base sixteen or two and digits of that
base, or else decimal digits. -/
def numeral? (cursor : Cursor) : Option (List Char × Cursor) :=
  let start := cursor.skipSpace
  match start.markedDigits? (fun c => c == 'x' || c == 'X') isHexDigit with
  | some numeral => some numeral
  | none =>
    match start.markedDigits? (fun c => c == 'b' || c == 'B') isBinaryDigit with
    | some numeral => some numeral
    | none =>
      match start.run Char.isDigit with
      | ([], _) => none
      | (digits, behind) => some (digits, behind)

def hexDigitValue (c : Char) : Nat :=
  if c.isDigit then c.toNat - '0'.toNat
  else if 'a' ≤ c then c.toNat - 'a'.toNat + 10
  else c.toNat - 'A'.toNat + 10

/-- A register, which a word character must not follow, and the place behind it. -/
def register? (cursor : Cursor) : Option (Register × Cursor) :=
  match cursor.skipSpace.rest with
  | letter :: digit :: rest =>
    if (letter == 'v' || letter == 'V') && isHexDigit digit
        && !rest.head?.any Text.isWordChar then
      some (.ofNumber (hexDigitValue digit), ⟨digit, rest⟩)
    else none
  | _ => none

end Cursor

end Chip8.Assembly
