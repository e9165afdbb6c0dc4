import Chip8.Numeric.Decimal
import Chip8.Text.Integer
import Chip8.Toml.Error
import Chip8.Toml.Value

/-! # Strings, numbers and dates

Readers for the parts of a document that hold no other values. A reader takes the text from its
place on and returns what it read together with the text behind it.
-/

namespace Chip8.Toml

def failAt {α : Type} (place : List Char) (defect : Defect) : Except Error α :=
  .error ⟨defect, place.length⟩

def isLineBlank (c : Char) : Bool := c == ' ' || c == '\t'

def isAnyBlank (c : Char) : Bool := isLineBlank c || c == '\n'

def skipBlanks (cs : List Char) : List Char := cs.dropWhile isLineBlank

/-- Whether a character is a control character other than a tab. -/
def isControl (c : Char) : Bool := (c.toNat < 0x20 && c != '\t') || c.toNat == 0x7F

/-- Whether a character is a control character other than a tab and a line feed. -/
def isMultilineControl (c : Char) : Bool := isControl c && c != '\n'

/-- The text behind the rest of a comment, which ends before the line feed. -/
def commentEnd : List Char → Except Error (List Char)
  | [] => .ok []
  | c :: rest =>
    if c == '\n' then .ok (c :: rest)
    else if isControl c then failAt (c :: rest) (.invalidCharacter c)
    else commentEnd rest

def skipComment : List Char → Except Error (List Char)
  | '#' :: rest => commentEnd rest
  | cs => .ok cs

/-- The text behind blanks, line feeds and comments; it starts within a comment or outside. -/
def skipLines (inComment : Bool) : List Char → Except Error (List Char)
  | [] => .ok []
  | c :: rest =>
    if c == '\n' then skipLines false rest
    else if inComment then
      if isControl c then failAt (c :: rest) (.invalidCharacter c) else skipLines true rest
    else if isLineBlank c then skipLines false rest
    else if c == '#' then skipLines true rest
    else .ok (c :: rest)

/-! ## Strings -/

/-- The characters before the first occurrence of a mark, and the text behind it. -/
def splitAtMark (mark : List Char) : List Char → Option (List Char × List Char)
  | [] => none
  | c :: rest =>
    if mark.isPrefixOf (c :: rest) then some ([], (c :: rest).drop mark.length)
    else (splitAtMark mark rest).map fun (before, behind) => (c :: before, behind)

/-- A string that runs up to a mark and in which nothing is escaped. -/
def literalString (mark : List Char) (isIllegal : Char → Bool) (cs : List Char) :
    Except Error (List Char × List Char) :=
  match splitAtMark mark cs with
  | none => failAt [] (.missingQuotes (String.ofList mark))
  | some (text, behind) =>
    match (text.dropWhile (!isIllegal ·)).head? with
    | some c => failAt (cs.dropWhile (!isIllegal ·)) (.invalidCharacter c)
    | none => .ok (text, behind)

/-- The character that a count of hexadecimal digits stands for. -/
def hexCharacter (count : Nat) (cs : List Char) : Except Error (List Char × List Char) :=
  match (cs.take count).mapM (Text.digitValue? 16) with
  | none => failAt cs .invalidHexValue
  | some digits =>
    let number := Text.positionalValue 16 digits
    if digits.length < count then failAt cs .invalidHexValue
    else if number.isValidChar then .ok ([Char.ofNat number], cs.drop count)
    else failAt (cs.drop count) .notAScalar

/-- What follows a backslash at the end of a line: blanks and line feeds up to the next text. -/
def lineContinuation (cs : List Char) : Except Error (List Char × List Char) :=
  match skipBlanks cs with
  | [] => .ok ([], [])
  | '\n' :: rest => .ok ([], rest.dropWhile isAnyBlank)
  | rest => failAt rest .strayBackslash

/-- The characters that an escape stands for; the text starts behind its backslash. -/
def escape (multiline : Bool) (cs : List Char) : Except Error (List Char × List Char) :=
  match cs with
  | 'u' :: rest => hexCharacter 4 rest
  | 'U' :: rest => hexCharacter 8 rest
  | 'b' :: rest => .ok (['\x08'], rest)
  | 't' :: rest => .ok (['\t'], rest)
  | 'n' :: rest => .ok (['\n'], rest)
  | 'f' :: rest => .ok (['\x0c'], rest)
  | 'r' :: rest => .ok (['\r'], rest)
  | '"' :: rest => .ok (['"'], rest)
  | '\\' :: rest => .ok (['\\'], rest)
  | c :: rest =>
    if multiline && isAnyBlank c then lineContinuation (c :: rest) else failAt rest .strayBackslash
  | [] => failAt [] .strayBackslash

/-- A string in which characters may be escaped, up to its closing quotes. The bound is at least the
length of the text. -/
def basicString (multiline : Bool) : Nat → List Char → Except Error (List Char × List Char)
  | 0, cs => failAt cs .unterminatedString
  | bound + 1, cs =>
    match cs with
    | [] => failAt [] .unterminatedString
    | '"' :: rest =>
      if !multiline then .ok ([], rest)
      else
        match rest with
        | '"' :: '"' :: behind => .ok ([], behind)
        | _ => prepend ['"'] (basicString multiline bound rest)
    | '\\' :: rest => do
      let (text, behind) ← escape multiline rest
      prepend text (basicString multiline bound behind)
    | c :: rest =>
      if (if multiline then isMultilineControl c else isControl c) then
        failAt cs (.illegalCharacter c)
      else prepend [c] (basicString multiline bound rest)
where
  /-- Puts characters in front of what a reader read. -/
  prepend (text : List Char) (reading : Except Error (List Char × List Char)) :
      Except Error (List Char × List Char) :=
    reading.map fun (more, behind) => (text ++ more, behind)

/-- A string with up to two more quotes than its closing mark has, which belong to it. -/
def withExtraQuotes (quote : Char) (text : List Char) : List Char → List Char × List Char
  | first :: second :: rest =>
    if first == quote && second == quote then (text ++ [quote, quote], rest)
    else if first == quote then (text ++ [quote], second :: rest)
    else (text, first :: second :: rest)
  | [first] => if first == quote then (text ++ [quote], []) else (text, [first])
  | [] => (text, [])

def skipLineEnd : List Char → List Char
  | '\n' :: rest => rest
  | cs => cs

/-- A string of one line, whose opening quote is still ahead. -/
def lineString? (cs : List Char) : Option (Except Error (List Char × List Char)) :=
  match cs with
  | '"' :: rest => some (basicString false (rest.length + 1) rest)
  | '\'' :: rest => some (literalString ['\''] isControl rest)
  | _ => none

/-- A string of any kind, whose opening quotes are still ahead. -/
def string? (cs : List Char) : Option (Except Error (List Char × List Char)) :=
  match cs with
  | '"' :: '"' :: '"' :: rest => some do
    let inner := skipLineEnd rest
    let (text, behind) ← basicString true (inner.length + 1) inner
    .ok (withExtraQuotes '"' text behind)
  | '\'' :: '\'' :: '\'' :: rest => some do
    let (text, behind) ← literalString ['\'', '\'', '\''] isMultilineControl (skipLineEnd rest)
    .ok (withExtraQuotes '\'' text behind)
  | cs => lineString? cs

/-! ## Numbers -/

/-- A row of digits, of which neighbours may be separated by one low line, and the text behind it.
The row is empty if no digit stands here. -/
def digitRow (isDigit : Char → Bool) : List Char → List Char × List Char
  | '_' :: rest => ([], '_' :: rest)
  | c :: '_' :: d :: rest =>
    if isDigit c then
      if isDigit d then
        let (row, behind) := digitRow isDigit (d :: rest)
        (c :: '_' :: row, behind)
      else ([c], '_' :: d :: rest)
    else ([], c :: '_' :: d :: rest)
  | c :: rest =>
    if isDigit c then
      let (row, behind) := digitRow isDigit rest
      (c :: row, behind)
    else ([], c :: rest)
  | [] => ([], [])
termination_by cs => cs.length

/-- A number in base sixteen, two or eight behind its marker. -/
def markedInteger? (cs : List Char) : Option (Value × List Char) :=
  let read (base : Nat) (rest : List Char) : Option (Value × List Char) :=
    let (row, behind) := digitRow (fun c => (Text.digitValue? base c).isSome) rest
    (Text.readInteger? base row).map fun value => (.integer value, behind)
  match cs with
  | '0' :: 'x' :: rest => read 16 rest
  | '0' :: 'b' :: rest => read 2 rest
  | '0' :: 'o' :: rest => read 8 rest
  | _ => none

/-- The fraction of a number, from its point on, and the text behind it. -/
def fractionPart (cs : List Char) : List Char × List Char :=
  match cs with
  | '.' :: rest =>
    match digitRow Char.isDigit rest with
    | ([], _) => ([], cs)
    | (row, behind) => ('.' :: row, behind)
  | _ => ([], cs)

/-- The exponent of a number, from its mark on, and the text behind it. -/
def exponentPart (cs : List Char) : List Char × List Char :=
  match cs with
  | mark :: rest =>
    if mark == 'e' || mark == 'E' then
      let (sign, digits) := match rest with
        | '-' :: digits => (['-'], digits)
        | '+' :: digits => (['+'], digits)
        | digits => ([], digits)
      match digitRow Char.isDigit digits with
      | ([], _) => ([], cs)
      | (row, behind) => (mark :: sign ++ row, behind)
    else ([], cs)
  | [] => ([], cs)

/-- A number in base ten. A leading zero stands alone before the point. -/
def decimalNumber? (cs : List Char) : Option (Except Error (Value × List Char)) :=
  let (sign, unsigned) := match cs with
    | '-' :: rest => (['-'], rest)
    | '+' :: rest => (['+'], rest)
    | rest => ([], rest)
  let (whole, behind) := match unsigned with
    | '0' :: rest => (['0'], rest)
    | rest => digitRow Char.isDigit rest
  if whole.isEmpty then none
  else
    let (fraction, behind) := fractionPart behind
    let (exponent, behind) := exponentPart behind
    if fraction.isEmpty && exponent.isEmpty then
      match Text.readInteger? 10 (sign ++ whole) with
      | some value => some (.ok (.integer value, behind))
      | none => some (failAt cs (.tooManyDigits (whole.countP Char.isDigit)))
    else
      (Numeric.readReal? (sign ++ whole ++ fraction ++ exponent)).map fun value =>
        .ok (.real value, behind)

/-- Infinity or the undefined number, with an optional sign. -/
def specialNumber? (cs : List Char) : Option (Value × List Char) :=
  match cs with
  | 'i' :: 'n' :: 'f' :: rest => some (.real (1 / 0), rest)
  | '+' :: 'i' :: 'n' :: 'f' :: rest => some (.real (1 / 0), rest)
  | '-' :: 'i' :: 'n' :: 'f' :: rest => some (.real (-1 / 0), rest)
  | 'n' :: 'a' :: 'n' :: rest => some (.real (0 / 0), rest)
  | '+' :: 'n' :: 'a' :: 'n' :: rest => some (.real (0 / 0), rest)
  | '-' :: 'n' :: 'a' :: 'n' :: rest => some (.real (0 / 0), rest)
  | _ => none

/-! ## Dates and times -/

/-- The number of a given count of digits that start a text, and the text behind them. -/
def fixedDigits? (count : Nat) (cs : List Char) : Option (Nat × List Char) :=
  let digits := cs.take count
  if digits.length = count ∧ digits.all Char.isDigit then
    some (Numeric.digitsValue digits, cs.drop count)
  else none

/-- The text behind a character that must stand here. -/
def expect? (c : Char) : List Char → Option (List Char)
  | d :: rest => if c == d then some rest else none
  | [] => none

/-- Two digits whose number lies in a range, and the text behind them. -/
def pair? (low high : Nat) (cs : List Char) : Option (Nat × List Char) := do
  let (number, rest) ← fixedDigits? 2 cs
  if low ≤ number ∧ number ≤ high then some (number, rest) else none

/-- The text behind a time of day, whose seconds may have a fraction. -/
def timeOfDay? (cs : List Char) : Option (List Char) := do
  let (_, cs) ← pair? 0 23 cs
  let (_, cs) ← pair? 0 59 (← expect? ':' cs)
  let (_, cs) ← pair? 0 59 (← expect? ':' cs)
  match cs with
  | '.' :: c :: rest => some (if c.isDigit then rest.dropWhile Char.isDigit else cs)
  | cs => some cs

/-- The text behind the offset of a time from universal time, if one stands here. -/
def skipOffset (cs : List Char) : List Char :=
  let numeric? (rest : List Char) : Option (List Char) := do
    let (_, rest) ← pair? 0 23 rest
    let (_, rest) ← pair? 0 59 (← expect? ':' rest)
    some rest
  match cs with
  | 'Z' :: rest | 'z' :: rest => rest
  | '+' :: rest | '-' :: rest => (numeric? rest).getD cs
  | cs => cs

def daysInMonth (year month : Nat) : Nat :=
  if month = 2 then
    if year % 4 = 0 ∧ (year % 100 ≠ 0 ∨ year % 400 = 0) then 29 else 28
  else if month = 4 ∨ month = 6 ∨ month = 9 ∨ month = 11 then 30
  else 31

/-- A date, whether the calendar has it, and the text behind it. -/
def calendarDate? (cs : List Char) : Option (Bool × List Char) := do
  let (year, cs) ← fixedDigits? 4 cs
  let (month, cs) ← pair? 1 12 (← expect? '-' cs)
  let (day, cs) ← pair? 1 31 (← expect? '-' cs)
  some (1 ≤ year ∧ day ≤ daysInMonth year month, cs)

/-- The text behind the time of day that a date may be followed by. -/
def timeAfterDate? (cs : List Char) : Option (List Char) :=
  match cs with
  | c :: rest =>
    if c == 'T' || c == 't' || c == ' ' then (timeOfDay? rest).map skipOffset else none
  | [] => none

/-- A date, with or without a time, or a time alone. -/
def moment? (cs : List Char) : Option (Except Error (Value × List Char)) :=
  match calendarDate? cs with
  | some (inCalendar, behind) =>
    if inCalendar then
      match timeAfterDate? behind with
      | some behind => some (.ok (.dateTime, behind))
      | none => some (.ok (.date, behind))
    else some (failAt cs .invalidDate)
  | none => (timeOfDay? cs).map fun behind => .ok (.time, behind)

end Chip8.Toml
