import Chip8.Toml.Scalar

/-! # Keys, arrays and inline tables

Readers for dotted keys and for values that hold other values. An inline table is complete once it
is closed: its lists and tables take no further entries, not even from keys that follow in it.
-/

namespace Chip8.Toml

/-! ## Keys -/

/-- Whether a character may stand in a key that is not quoted. -/
def isBareKey (c : Char) : Bool := c.isAlphanum || c == '-' || c == '_'

def startsKey (c : Char) : Bool := isBareKey c || c == '"' || c == '\''

def keyPart (cs : List Char) : Except Error (String × List Char) :=
  match lineString? cs with
  | some reading => reading.map fun (text, behind) => (String.ofList text, behind)
  | none =>
    if (cs.takeWhile isBareKey).isEmpty then failAt cs .invalidKey
    else .ok (String.ofList (cs.takeWhile isBareKey), cs.dropWhile isBareKey)

/-- A dotted key and the blanks behind it. The bound is at least the length of the text. -/
def dottedKey : Nat → List Char → Except Error (Path × List Char)
  | 0, cs => failAt cs .invalidKey
  | bound + 1, cs => do
    let (part, behind) ← keyPart cs
    match skipBlanks behind with
    | '.' :: rest =>
      let (parts, behind) ← dottedKey bound (skipBlanks rest)
      .ok (part :: parts, behind)
    | behind => .ok ([part], behind)

def key (cs : List Char) : Except Error (Path × List Char) := dottedKey (cs.length + 1) cs

/-- A dotted key, the equals sign behind it and the blanks behind that. -/
def keyBeforeValue (cs : List Char) : Except Error (Path × List Char) := do
  match ← key cs with
  | (path, '=' :: rest) => .ok (path, skipBlanks rest)
  | (_, behind) => failAt behind .missingEquals

/-! ## Nested tables -/

namespace Entries

/-- Changes the table at the end of a path. Tables that are missing on the way are created. A list
on the way stands for its last item where `throughLists` says so. -/
def modifyAt? (throughLists : Bool) (change : Entries → Except Defect Entries) :
    Path → Entries → Except Defect Entries
  | [], entries => change entries
  | name :: path, entries =>
    let enter (inner : Entries) : Except Defect Entries := modifyAt? throughLists change path inner
    match entries.find? name with
    | none => (enter []).map fun inner => entries.put name (.table inner)
    | some (.table inner) => (enter inner).map fun inner => entries.put name (.table inner)
    | some (.list items) =>
      match throughLists, items.getLast? with
      | true, some (.table inner) =>
        (enter inner).map fun inner => entries.put name (.list (items.dropLast ++ [.table inner]))
      | _, _ => .error .overwritten
    | some _ => .error .overwritten

end Entries

def atPlace {α : Type} (place : List Char) (result : Except Defect α) : Except Error α :=
  result.mapError fun defect => ⟨defect, place.length⟩

/-- Whether a path lies in a frozen part: one of the frozen paths leads to it. -/
def isFrozen (frozen : List Path) (path : Path) : Bool :=
  frozen.any fun (ancestor : Path) => ancestor.isPrefixOf path

/-- Whether a value takes no further entries once it is complete. -/
def Value.holdsValues : Value → Bool
  | .list _ | .table _ => true
  | _ => false

def addInline (entries : Entries) (path : Path) (value : Value) : Except Defect Entries :=
  let name := path.getLastD ""
  entries.modifyAt? false
    (fun inner =>
      if (inner.find? name).isSome then .error (.duplicateKey name)
      else .ok (inner.put name value))
    path.dropLast

/-! ## Values -/

def truth? (cs : List Char) : Option (Value × List Char) :=
  match cs with
  | 't' :: 'r' :: 'u' :: 'e' :: rest => some (.boolean true, rest)
  | 'f' :: 'a' :: 'l' :: 's' :: 'e' :: rest => some (.boolean false, rest)
  | _ => none

def text? (cs : List Char) : Option (Except Error (Value × List Char)) :=
  (string? cs).map fun reading => reading.map fun (text, behind) =>
    (.text (String.ofList text), behind)

/-- A value that holds no others. A date may look like a number, so it is tried first. -/
def scalar (cs : List Char) : Except Error (Value × List Char) :=
  let reading := text? cs <|> (truth? cs).map .ok <|> moment? cs <|> (markedInteger? cs).map .ok
    <|> decimalNumber? cs <|> (specialNumber? cs).map .ok
  reading.getD (failAt cs .invalidValue)

/-- The room for lists and tables within each other. -/
def nestingRoom : Nat := 985

def listRoom : Nat := 2

def tableRoom : Nat := 3

mutual

/-- A value, for which there is some room. The bound is at least twice the length of the text. -/
def value : Nat → Nat → List Char → Except Error (Value × List Char)
  | 0, _, cs => failAt cs .invalidValue
  | bound + 1, room, cs =>
    match cs with
    | '[' :: rest =>
      if room < 2 * listRoom then failAt cs .tooDeep
      else (items bound (room - listRoom) rest).map fun (list, behind) => (.list list, behind)
    | '\x7b' :: rest =>
      match skipBlanks rest with
      | '\x7d' :: behind => .ok (.table [], behind)
      | inner =>
        if room < 2 * tableRoom then failAt cs .tooDeep
        else (inlineEntries bound (room - tableRoom) [] [] inner).map fun (entries, behind) =>
          (.table entries, behind)
    | cs => scalar cs

/-- The items of an array up to its closing bracket. A comma may stand behind the last one. -/
def items : Nat → Nat → List Char → Except Error (List Value × List Char)
  | 0, _, cs => failAt cs .unclosedArray
  | bound + 1, room, cs => do
    match ← skipLines false cs with
    | ']' :: behind => .ok ([], behind)
    | inner =>
      let (item, rest) ← value bound room inner
      match ← skipLines false rest with
      | ']' :: behind => .ok ([item], behind)
      | ',' :: rest =>
        let (later, behind) ← items bound room rest
        .ok (item :: later, behind)
      | rest => failAt rest .unclosedArray

/-- The entries of an inline table up to its closing brace, behind those that were read before. -/
def inlineEntries :
    Nat → Nat → Entries → List Path → List Char → Except Error (Entries × List Char)
  | 0, _, _, _, cs => failAt cs .unclosedInlineTable
  | bound + 1, room, entries, frozen, cs => do
    let (path, rest) ← keyBeforeValue cs
    let (entry, rest) ← value bound room rest
    if isFrozen frozen path then failAt rest (.immutable path)
    else
      let entries ← atPlace rest (addInline entries path entry)
      match skipBlanks rest with
      | '\x7d' :: behind => .ok (entries, behind)
      | ',' :: rest =>
        let frozen := if entry.holdsValues then path :: frozen else frozen
        inlineEntries bound room entries frozen (skipBlanks rest)
      | rest => failAt rest .unclosedInlineTable

end

/-- A value of any size, unless it is nested too deeply. -/
def anyValue (cs : List Char) : Except Error (Value × List Char) :=
  value (2 * cs.length + 2) nestingRoom cs

end Chip8.Toml
