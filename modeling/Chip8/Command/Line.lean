/-! # Command lines

The words behind the name of a command: options, some of which take a value, and arguments, in any
order. A long option may have its value behind an equals sign; short options may share a word, the
last of them with its value. Behind the word `--` everything is an argument.
-/

namespace Chip8.Command

/-- An option of a command and how it is written. -/
structure OptionForm (κ : Type) where
  option : κ
  long : String
  short : Option Char
  takesValue : Bool
deriving Repr

/-- What is wrong with the words behind the name of a command. -/
inductive UsageError where
  | unknownOption (word : String)
  | missingValue (option : String)
  | unwantedValue (option : String)
  | invalidValue (option value : String)
  | missingArgument (argument : String)
  | extraArguments (arguments : List String)
  | missingFile (path : String)
  | folder (path : String)
  /-- The path holds a character that no path can have. -/
  | unusablePath (path : String)
deriving DecidableEq, Repr

def UsageError.message : UsageError → String
  | .unknownOption word => s!"No such option: {word}"
  | .missingValue option => s!"Option '{option}' requires an argument."
  | .unwantedValue option => s!"Option '{option}' does not take a value."
  | .invalidValue option value => s!"Invalid value for '{option}': '{value}'."
  | .missingArgument argument => s!"Missing argument '{argument}'."
  | .extraArguments arguments =>
    let shown := " ".intercalate arguments
    s!"Got unexpected extra arguments ({shown})"
  | .missingFile path => s!"Path '{path}' does not exist."
  | .folder path => s!"File '{path}' is a directory."
  | .unusablePath _ => "embedded null byte"

/-- The exit status of a command that an error keeps from starting. -/
def UsageError.status : UsageError → Nat
  | .unusablePath _ => 1
  | _ => 2

/-- The error on a path that leads to nothing. -/
def UsageError.ofPath (path : String) : UsageError :=
  if path.toList.contains '\x00' then .unusablePath path else .missingFile path

/-- The options of a command line with their values, those without a value with an empty one, and
its arguments, each in order. -/
structure Line (κ : Type) where
  options : List (κ × String)
  arguments : List String
deriving Repr

/-- The options that a word gives, and the last of them if its value is still to come. -/
structure Given (κ : Type) where
  options : List (κ × String)
  awaiting : Option (OptionForm κ)
deriving Repr

variable {κ : Type}

/-- The options of a word of short ones, behind its dash. -/
def shortOptions (forms : List (OptionForm κ)) : List Char → Except UsageError (Given κ)
  | [] => .ok ⟨[], none⟩
  | c :: rest =>
    match forms.find? fun form => form.short = some c with
    | none => .error (.unknownOption (String.ofList ['-', c]))
    | some form =>
      if form.takesValue then
        if rest.isEmpty then .ok ⟨[], some form⟩
        else .ok ⟨[(form.option, String.ofList rest)], none⟩
      else
        (shortOptions forms rest).map fun given =>
          { given with options := (form.option, "") :: given.options }

def wordOptions (forms : List (OptionForm κ)) (word : String) : Except UsageError (Given κ) :=
  let letters := word.toList
  let name := String.ofList (letters.takeWhile (· != '='))
  let value := letters.dropWhile (· != '=')
  match forms.find? fun form => form.long == name with
  | some form =>
    match form.takesValue, value with
    | true, [] => .ok ⟨[], some form⟩
    | true, _ :: value => .ok ⟨[(form.option, String.ofList value)], none⟩
    | false, [] => .ok ⟨[(form.option, "")], none⟩
    | false, _ :: _ => .error (.unwantedValue name)
  | none =>
    match letters with
    | '-' :: '-' :: _ => .error (.unknownOption name)
    | letters => shortOptions forms (letters.drop 1)

/-- Whether a word gives options: it starts with a dash and goes on behind it. -/
def givesOptions (word : String) : Bool :=
  match word.toList with
  | '-' :: _ :: _ => true
  | _ => false

namespace Line

def withOptions (line : Line κ) (options : List (κ × String)) : Line κ :=
  { line with options := options ++ line.options }

def withArgument (line : Line κ) (argument : String) : Line κ :=
  { line with arguments := argument :: line.arguments }

/-- Reads words; an option may be waiting for its value. -/
def readFrom (forms : List (OptionForm κ)) (awaiting : Option (OptionForm κ)) :
    List String → Except UsageError (Line κ)
  | [] =>
    match awaiting with
    | some form => .error (.missingValue form.long)
    | none => .ok ⟨[], []⟩
  | word :: later =>
    match awaiting with
    | some form => (readFrom forms none later).map (·.withOptions [(form.option, word)])
    | none =>
      if word = "--" then .ok ⟨[], later⟩
      else if givesOptions word then do
        let given ← wordOptions forms word
        let line ← readFrom forms given.awaiting later
        .ok (line.withOptions given.options)
      else (readFrom forms none later).map (·.withArgument word)

def read (forms : List (OptionForm κ)) (words : List String) : Except UsageError (Line κ) :=
  readFrom forms none words

def has [BEq κ] (line : Line κ) (option : κ) : Bool := line.options.any (·.1 == option)

/-- The value of an option; the last one counts. -/
def value? [BEq κ] (line : Line κ) (option : κ) : Option String :=
  (line.options.reverse.find? (·.1 == option)).map (·.2)

end Line

end Chip8.Command
