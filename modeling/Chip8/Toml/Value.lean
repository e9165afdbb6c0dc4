/-! # Values of documents

What the entries of a document hold. Tables keep their entries in the order in which they were
written, each name once.
-/

namespace Chip8.Toml

/-- A value of a document, or no value. Dates and times are told apart from other values but not
kept. -/
inductive Value where
  | null
  | boolean (value : Bool)
  | integer (value : Int)
  | real (value : Float)
  | text (value : String)
  | date
  | dateTime
  | time
  | list (items : List Value)
  | table (entries : List (String × Value))
deriving Repr, Inhabited

inductive Kind where
  | null
  | boolean
  | integer
  | real
  | text
  | date
  | dateTime
  | time
  | list
  | table
deriving DecidableEq, Repr

def Value.kind : Value → Kind
  | .null => .null
  | .boolean _ => .boolean
  | .integer _ => .integer
  | .real _ => .real
  | .text _ => .text
  | .date => .date
  | .dateTime => .dateTime
  | .time => .time
  | .list _ => .list
  | .table _ => .table

def Kind.name : Kind → String
  | .null => "NoneType"
  | .boolean => "bool"
  | .integer => "int"
  | .real => "float"
  | .text => "str"
  | .date => "datetime.date"
  | .dateTime => "datetime.datetime"
  | .time => "datetime.time"
  | .list => "list"
  | .table => "dict"

/-- The named values of a table, in order. -/
abbrev Entries := List (String × Value)

namespace Entries

def find? (entries : Entries) (name : String) : Option Value :=
  (List.find? (fun entry => entry.1 == name) entries).map (·.2)

/-- The entries with the value of a name replaced, or with a new entry at the end. -/
def put (entries : Entries) (name : String) (value : Value) : Entries :=
  if (entries.find? name).isSome then
    entries.map fun entry => if entry.1 == name then (name, value) else entry
  else entries ++ [(name, value)]

end Entries

end Chip8.Toml
