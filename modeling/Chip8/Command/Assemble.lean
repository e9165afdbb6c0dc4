import Chip8.Assembly.Program
import Chip8.Command.FileTree
import Chip8.Command.Line
import Chip8.Text.Encoding

/-! # The command that assembles

Reads sources, assembles them into one program and writes it to a file. Nothing is written unless
the program is complete.
-/

namespace Chip8.Command

/-- The options of the command. -/
inductive AssembleOption where
  | verbose
  | help
deriving DecidableEq, Repr

def assembleForms : List (OptionForm AssembleOption) :=
  [⟨.verbose, "--verbose", some 'v', false⟩, ⟨.help, "--help", none, false⟩]

/-- Why the command stops without an explanation of its own. -/
inductive AssembleFailure where
  | source (error : Assembly.AssemblyError)
  | encoding (error : Text.EncodingError)
  | file (error : FileError)
deriving DecidableEq, Repr

def AssembleFailure.message : AssembleFailure → String
  | .source error => error.message
  | .encoding error => error.message
  | .file error => error.message

/-- What the command leaves behind. -/
structure AssembleOutcome where
  /-- The exit status. -/
  status : Nat
  failure : Option AssembleFailure
  usage : Option UsageError
  files : FileTree
  notices : List Notice
deriving Repr

/-- What the words behind the name of the command ask for: a program of some sources in a file, or
nothing but help. -/
inductive AssembleRequest where
  | help
  | build (sources : List String) (target : String)
deriving DecidableEq, Repr

/-- What the words behind the name of the command ask for. The last argument is the target. -/
def AssembleRequest.ofWords (tree : FileTree) (words : List String) :
    Except UsageError AssembleRequest := do
  let line ← Line.read assembleForms words
  if line.has .help then .ok .help
  else
    let sources := line.arguments.dropLast
    match line.arguments.getLast?, sources.find? fun path => (tree.lookUp? path).isNone with
    | none, _ => .error (.missingArgument "BINARY")
    | some target, none =>
      if sources.isEmpty then .error (.missingArgument "SOURCES...")
      else .ok (.build sources target)
    | some _, some path => .error (.ofPath path)

/-- The source in the file of a path, under the stem of its name. -/
def collect (tree : FileTree) (path : String) :
    Except AssembleFailure Assembly.SourceModule := do
  let content ← (tree.read path).mapError .file
  let text ← (Text.decodeFile content).mapError .encoding
  .ok ⟨Path.stem path, text⟩

/-- The notices on collecting sources, up to the first that cannot be read. -/
def collectNotices (tree : FileTree) : List String → List Notice
  | [] => []
  | path :: later =>
    ⟨.debug, s!"Collecting file {Path.text path}"⟩ ::
      match collect tree path with
      | .ok _ => collectNotices tree later
      | .error _ => []

def build (tree : FileTree) (paths : List String) (target : String) : AssembleOutcome :=
  let collected := ⟨.info, "C8 ASM"⟩ :: collectNotices tree paths
  match paths.mapM (collect tree) with
  | .error failure => ⟨1, some failure, none, tree, collected⟩
  | .ok sources =>
    let processed := collected ++ Assembly.assembleNotices sources
    match Assembly.assemble sources with
    | .error (.rejected cause) =>
      ⟨1, none, none, tree, processed ++ [⟨.error, s!"Assembly failed: {cause.message}"⟩]⟩
    | .error error => ⟨1, some (.source error), none, tree, processed⟩
    | .ok program =>
      match (FileTree.write target program).run tree with
      | .error error files => ⟨1, some (.file error), none, files, processed⟩
      | .ok _ files =>
        let written := s!"Wrote {program.length} bytes to {Path.text target}"
        ⟨0, none, none, files, processed ++ [⟨.info, written⟩]⟩

def assemble (tree : FileTree) (words : List String) : AssembleOutcome :=
  match AssembleRequest.ofWords tree words with
  | .error error => ⟨error.status, none, some error, tree, []⟩
  | .ok .help => ⟨0, none, none, tree, []⟩
  | .ok (.build sources target) => build tree sources target

end Chip8.Command
