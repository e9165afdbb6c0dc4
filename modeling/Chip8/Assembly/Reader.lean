import Chip8.Assembly.Cursor
import Chip8.Assembly.Statement

/-! # Reading statements

At each place of a source the first of these that fits is taken: a comment, a label, the instruction
form that reads furthest, a row of bytes, a word, and, if nothing fits, the rest of the line as an
unknown statement. Statements need no separators, and comments stand between statements only.
-/

namespace Chip8.Assembly.Cursor

/-- A reference to a label and the place behind it. A module name is followed by two colons. -/
def reference? (cursor : Cursor) : Option (Reference × Cursor) := do
  let cursor ← cursor.symbol? "&"
  let (first, cursor) ← cursor.name?
  match cursor.symbol? "::" with
  | none => some (⟨[first]⟩, cursor)
  | some cursor => do
    let (second, cursor) ← cursor.name?
    some (⟨[first, second]⟩, cursor)

/-- A number or a reference and the place behind it. -/
def address? (cursor : Cursor) : Option (Operand (List Char) × Cursor) :=
  match cursor.numeral? with
  | some (text, cursor) => some (.number text, cursor)
  | none => (cursor.reference?).map fun (target, cursor) => (.reference target, cursor)

/-- What stands in a slot, if the slot fills a field, and the place behind it. -/
def operand? (cursor : Cursor) : Slot → Option (Option (Operand (List Char)) × Cursor)
  | .x | .y => (cursor.register?).map fun (number, cursor) => (some (.register number), cursor)
  | .digit | .byte => (cursor.numeral?).map fun (text, cursor) => (some (.number text), cursor)
  | .address => (cursor.address?).map fun (operand, cursor) => (some operand, cursor)
  | .fixed text =>
    let behind :=
      if text.toList.all Char.isAlphanum then cursor.keyword? text else cursor.symbol? text
    behind.map fun cursor => (none, cursor)

/-- The place where the next operand may start: here if it is the first one, else behind a comma. -/
def separator? (cursor : Cursor) (first : Bool) : Option Cursor :=
  if first then some cursor else cursor.symbol? ","

/-- The operands in a row of slots, each but the first one behind a comma. -/
def operands? (cursor : Cursor) (first : Bool) :
    List Slot → Option (List (Operand (List Char)) × Cursor)
  | [] => some ([], cursor)
  | slot :: slots => do
    let cursor ← cursor.separator? first
    let (operand, cursor) ← cursor.operand? slot
    let (operands, cursor) ← cursor.operands? false slots
    some (operand.toList ++ operands, cursor)

/-- An instruction of a given form and the place behind it. -/
def form? (cursor : Cursor) (form : Form) : Option (Statement (List Char) × Cursor) := do
  let cursor ← cursor.keyword? form.mnemonic
  let (operands, cursor) ← cursor.operands? true form.slots
  some (.instruction form operands, cursor)

/-- The first of the readings that go furthest. -/
def furthest? {α : Type} : List (α × Cursor) → Option (α × Cursor)
  | [] => none
  | reading :: others =>
    match furthest? others with
    | none => some reading
    | some other => if reading.2.remaining ≤ other.2.remaining then some reading else some other

/-- The instruction that reads furthest and the place behind it. -/
def instruction? (cursor : Cursor) : Option (Statement (List Char) × Cursor) :=
  furthest? (Form.all.filterMap cursor.form?)

def label? (cursor : Cursor) : Option (Statement (List Char) × Cursor) := do
  let (name, cursor) ← cursor.name?
  let cursor ← cursor.symbol? ":"
  some (.label name, cursor)

/-- The number behind a comma and the place behind it. -/
def nextNumeral? (cursor : Cursor) : Option (List Char × Cursor) := do
  (← cursor.symbol? ",").numeral?

/-- At most a given count of further numbers, each behind a comma. -/
def moreNumerals : Nat → Cursor → List (List Char) × Cursor
  | 0, cursor => ([], cursor)
  | count + 1, cursor =>
    match cursor.nextNumeral? with
    | none => ([], cursor)
    | some (text, cursor) =>
      let (texts, cursor) := moreNumerals count cursor
      (text :: texts, cursor)

def bytes? (cursor : Cursor) : Option (Statement (List Char) × Cursor) := do
  let cursor ← cursor.keyword? "DB"
  let (text, cursor) ← cursor.numeral?
  let (texts, cursor) := cursor.moreNumerals cursor.remaining
  some (.bytes (text :: texts), cursor)

def word? (cursor : Cursor) : Option (Statement (List Char) × Cursor) := do
  let cursor ← cursor.keyword? "DW"
  let (operand, cursor) ← cursor.address?
  some (.word operand, cursor)

/-- The place behind a comment, which runs up to the end of its line. -/
def comment? (cursor : Cursor) : Option Cursor :=
  (cursor.symbol? "//").map fun cursor => (cursor.run (· != '\n')).2

/-- The rest of the line, which must not be empty, and the place behind it. -/
def unknown? (cursor : Cursor) : Option (Statement (List Char) × Cursor) :=
  let start := cursor.skipSpace
  if start.rest.isEmpty then none
  else
    let (text, behind) := start.run (· != '\n')
    some (.unknown (String.ofList text), behind)

/-- The statement that stands here and the place behind it. There is none at the end of the source.
-/
def statement? (cursor : Cursor) : Option (Statement (List Char) × Cursor) :=
  (cursor.label?).or <| (cursor.instruction?).or <| (cursor.bytes?).or <|
    (cursor.word?).or cursor.unknown?

/-- The next statement, or nothing for a comment, and the place behind it. -/
def next? (cursor : Cursor) : Option (Option (Statement (List Char)) × Cursor) :=
  let start := cursor.skipSpace
  match start.comment? with
  | some behind => some (none, behind)
  | none => (start.statement?).map fun (statement, behind) => (some statement, behind)

end Chip8.Assembly.Cursor
