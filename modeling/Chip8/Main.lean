import Chip8.Command.Assemble
import Chip8.Command.Run

/-! # The program

Two commands on the files of the real system: `c8asm` assembles, and `c8run` runs a program without
a window or a sound device. The frames of a session are the lines of the standard input: the
milliseconds since the frame before, and then a word for each event, which is `quit`, or the name of
a key behind a plus sign if it goes down and behind a minus sign if it goes up. The frames that are
painted are printed as text.
-/

namespace Chip8.Main

open Command

def folderErrorNumber : UInt32 := 21

/-- Adds what the real system has at a path. -/
def gather (tree : FileTree) (path : String) : IO FileTree := do
  let place := Path.place path
  try
    let content ← IO.FS.readBinFile (Path.text path)
    return tree.put place content.toList
  catch
    | .inappropriateType _ number _ =>
      return if number = folderErrorNumber then { tree with folders := place :: tree.folders }
        else tree
    | _ => return tree

/-- What the real system has at some paths. -/
def gatherAll (paths : List String) : IO FileTree := paths.foldlM gather ⟨[], [["/"], [".."]]⟩

/-- Writes what a tree has and an earlier one has not to the real system. -/
def store (earlier later : FileTree) : IO Unit := do
  for place in later.folders do
    unless earlier.folders.contains place do
      IO.FS.createDirAll ("/".intercalate place)
  for (place, content) in later.files do
    unless earlier.files.contains (place, content) do
      unless place.length < 2 do
        IO.FS.createDirAll ("/".intercalate place.dropLast)
      IO.FS.writeBinFile ("/".intercalate place) (ByteArray.mk content.toArray)

/-- Shows notices, those that only help to find errors if they are asked for. -/
def report (verbose : Bool) (notices : List Notice) : IO Unit := do
  for notice in Notice.atLeast (if verbose then .debug else .info) notices do
    IO.eprintln notice.line

def assembleFiles (words : List String) : IO UInt32 := do
  let line := (Line.read assembleForms words).toOption
  let tree ← gatherAll ((line.map (·.arguments)).getD [])
  let outcome := assemble tree words
  report ((line.map (·.has .verbose)).getD false) outcome.notices
  if let some error := outcome.usage then IO.eprintln error.message
  if let some failure := outcome.failure then IO.eprintln failure.message
  store tree outcome.files
  return outcome.status.toUInt32

def eventOf (word : String) : Event :=
  let key (move : KeyMove) (letters : List Char) : Event :=
    match KeyCode.ofName? (String.ofList letters) with
    | some code => .key move code
    | none => .other
  match word.toList with
  | '+' :: letters => key .down letters
  | '-' :: letters => key .up letters
  | _ => if word = "quit" then .quit else .other

def frameOf (line : String) : Frame :=
  let words := (line.splitOn " ").filter (· != "")
  ⟨(Text.readInteger? 10 (words.headD "").toList).getD 0, (words.drop 1).map eventOf⟩

/-- The lines of the standard input. -/
partial def readLines (stdin : IO.FS.Stream) : IO (List String) := do
  let line ← stdin.getLine
  if line.isEmpty then return []
  else return line.trimAscii.toString :: (← readLines stdin)

/-- Runs a program with the frames of the standard input. -/
def runFile (words : List String) : IO UInt32 := do
  let line := (Line.read runForms words).toOption
  let tree ← gatherAll ((line.map fun line =>
    line.arguments ++ line.options.map (·.2)).getD [])
  let frames := (← readLines (← IO.getStdin)).map frameOf
  let seed ← IO.rand 0 0xFFFFFFFF
  let outcome := run tree ⟨0, seed⟩ ⟨frames, .quit⟩ words
  let verbose := (line.map (·.has .verbose)).getD false
  if let some error := outcome.usage then IO.eprintln error.message
  for shown in outcome.shown do
    report verbose shown.notices
    IO.println shown.session.caption
    IO.println shown.session.machine.display.text
  report verbose outcome.notices
  return outcome.status.toUInt32

end Chip8.Main

def main (words : List String) : IO UInt32 :=
  match words with
  | "c8asm" :: words => Chip8.Main.assembleFiles words
  | "c8run" :: words => Chip8.Main.runFile words
  | _ => do
    IO.eprintln "Usage: c8asm [OPTIONS] SOURCES... BINARY, or c8run [OPTIONS] ROM_FILENAME"
    return 2
