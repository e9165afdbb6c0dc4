/-! # File trees

The files that a command may read, and the folders around them, as values. A `Place` names a file or
a folder by the steps that lead to it from the current folder; a path is such a way as it is
written, in which steps may stay where they are or go up.
-/

namespace Chip8.Command

/-- The names that lead to a file or a folder from the current folder. A first name `/` starts at
the root instead, and the first names `..` lead out of the current folder. -/
abbrev Place := List String

/-- What stands at a place. -/
inductive Node where
  | file (content : List UInt8)
  | folder
deriving DecidableEq, Repr

/-- Files by their places, each place once, and folders that need not hold any. -/
structure FileTree where
  files : List (Place × List UInt8)
  folders : List Place
deriving DecidableEq, Repr

/-- Why a path cannot be read or written. -/
inductive FileError where
  /-- There is a folder where a file is needed. -/
  | isFolder (path : String)
  /-- There is a file where a folder is needed. -/
  | isFile (path : String)
  /-- There is a file on the way. -/
  | blocked (path : String)
  | missing (path : String)
  /-- A name on the way or the whole path has too many bytes. -/
  | tooLong (path : String)
  /-- The path holds a character that no path can have. -/
  | unusable
deriving DecidableEq, Repr

def FileError.message : FileError → String
  | .isFolder path => s!"[Errno 21] Is a directory: '{path}'"
  | .isFile path => s!"[Errno 17] File exists: '{path}'"
  | .blocked path => s!"[Errno 20] Not a directory: '{path}'"
  | .missing path => s!"[Errno 2] No such file or directory: '{path}'"
  | .tooLong path => s!"[Errno 36] File name too long: '{path}'"
  | .unusable => "embedded null byte"

/-! ## Paths -/

namespace Path

/-- The parts of a text between the slashes in it. -/
def cut : List Char → List (List Char)
  | [] => [[]]
  | c :: rest =>
    if c = '/' then [] :: cut rest
    else
      match cut rest with
      | [] => [[c]]
      | step :: later => (c :: step) :: later

def steps (path : String) : List String := (cut path.toList).map String.ofList

/-- The steps of a path that lead somewhere else. -/
def parts (path : String) : List String :=
  (steps path).filter fun step => step != "" && step != "."

def start (path : String) : Place := if path.toList.head? = some '/' then ["/"] else []

/-- What a path starts with when it is shown. -/
def anchor (path : String) : String :=
  match (path.toList.takeWhile (· == '/')).length with
  | 0 => ""
  | 2 => "//"
  | _ => "/"

/-- A path of some parts behind its start, as it is shown. -/
def shown (anchor : String) (parts : List String) : String :=
  let path := anchor ++ "/".intercalate parts
  if path = "" then "." else path

/-- A path as it is shown, without steps that stay where they are. -/
def text (path : String) : String := shown (anchor path) (parts path)

/-- The path of the folder that the last part of a path stands in. -/
def parentText (path : String) : String := shown (anchor path) (parts path).dropLast

def name (path : String) : String := (parts path).getLastD ""

/-- The last name of a path without its last extension. A dot in front or at the end starts no
extension. -/
def stem (path : String) : String :=
  let reversed := (name path).toList.reverse
  let extension := reversed.takeWhile (· != '.')
  match reversed.drop extension.length with
  | '.' :: first :: rest =>
    if extension.isEmpty then name path else String.ofList (first :: rest).reverse
  | _ => name path

def maxNameSize : Nat := 255

def maxSize : Nat := 4095

/-- Whether a name on the way of a path or the whole path has too many bytes. -/
def isTooLong (path : String) : Bool :=
  maxSize < (text path).utf8ByteSize || (parts path).any fun name => maxNameSize < name.utf8ByteSize

end Path

def Place.enter (place : Place) (step : String) : Place :=
  if step = "" ∨ step = "." then place
  else if step = ".." then
    match place.getLast? with
    | none | some ".." => place ++ [".."]
    | some "/" => place
    | some _ => place.dropLast
  else place ++ [step]

/-- The place that a path leads to if there are folders on its way. -/
def Path.place (path : String) : Place := (parts path).foldl Place.enter (start path)

namespace FileTree

def isAbove (place other : Place) : Bool := place.isPrefixOf other && place != other

/-- Whether there is a folder at a place. The current folder is always there. -/
def isFolder (tree : FileTree) (place : Place) : Bool :=
  place.isEmpty || tree.folders.contains place || tree.folders.any (isAbove place)
    || tree.files.any fun file => isAbove place file.1

def find? (tree : FileTree) (place : Place) : Option Node :=
  match tree.files.find? fun file => file.1 == place with
  | some (_, content) => some (.file content)
  | none => if tree.isFolder place then some .folder else none

/-- What some steps lead to; every step starts at a folder. -/
def follow? (tree : FileTree) (place : Place) : List String → Option Node
  | [] => tree.find? place
  | step :: later => if tree.isFolder place then tree.follow? (place.enter step) later else none

def lookUp? (tree : FileTree) (path : String) : Option Node :=
  if path = "" then none else tree.follow? (Path.start path) (Path.steps path)

def read (tree : FileTree) (path : String) : Except FileError (List UInt8) :=
  match tree.lookUp? path with
  | some (.file content) => .ok content
  | some .folder => .error (.isFolder (Path.text path))
  | none => .error (.missing (Path.text path))

/-- The tree with a content at a place, in place of that of a file that is there already. -/
def put (tree : FileTree) (place : Place) (content : List UInt8) : FileTree :=
  if tree.files.any (·.1 == place) then
    { tree with
      files := tree.files.map fun file => if file.1 == place then (place, content) else file }
  else { tree with files := tree.files ++ [(place, content)] }

def addFolder (tree : FileTree) (place : Place) : FileTree :=
  { tree with folders := tree.folders ++ [place] }

/-- Steps on the tree at hand. A failure keeps what was done before it. -/
abbrev Writing := EStateM FileError FileTree

/-- Makes the folders that some steps lead through and gives the place of the last of them. The host
is asked for all of them at once while none was missing, and for one at a time behind the first that
was missing; an error names the path that was asked for. -/
def makeFolders (anchor : String) (done : List String) (place : Place) (missed : Bool) :
    List String → Writing Place
  | [] => pure place
  | step :: later => do
    let asked := if missed then [step] else step :: later
    let path := Path.shown anchor (done ++ asked)
    if Path.maxNameSize < step.utf8ByteSize then throw (.tooLong path)
    let next := place.enter step
    match (← get).find? next with
    | some (.file _) => throw (if asked = [step] then .isFile path else .blocked path)
    | some .folder => makeFolders anchor (done ++ [step]) next missed later
    | none =>
      modify (·.addFolder next)
      makeFolders anchor (done ++ [step]) next true later

/-- Makes the folders on the way of a path and gives the place of the last of them. -/
def makeWay (path : String) : Writing Place := do
  let parent := (Path.parts path).dropLast
  if parent.any (·.toList.contains '\x00') then throw .unusable
  if Path.maxSize < (Path.parentText path).utf8ByteSize then
    throw (.tooLong (Path.parentText path))
  makeFolders (Path.anchor path) [] (Path.start path) false parent

/-- Puts a content at the end of a path, whose last part stands in the folder at a place. -/
def putFile (path : String) (content : List UInt8) (folder : Place) : Writing Unit := do
  if path.toList.contains '\x00' then throw .unusable
  if Path.isTooLong path then throw (.tooLong (Path.text path))
  match (Path.parts path).getLast? with
  | none => throw (.isFolder (Path.text path))
  | some name =>
    let place := folder.enter name
    match (← get).find? place with
    | some .folder => throw (.isFolder (Path.text path))
    | _ => modify (·.put place content)

/-- Writes a content to the end of a path. The folders that are missing on its way are made first,
and they stay if the content cannot be put there. -/
def write (path : String) (content : List UInt8) : Writing Unit := do
  putFile path content (← makeWay path)

end FileTree

end Chip8.Command
