import Chip8.Assembly.Draft

/-! # Requests of a draft

What can be asked of the draft at hand, one request at a time: to enter a module, to take what a
statement stands for, or to take bytes, a word or a link as they are. A request works on the draft
in steps. It looks at its tokens, puts down a piece, counts the bytes. A step that fails ends the
request, and the draft stays as the steps before have left it.
-/

namespace Chip8.Assembly

/-- Why a request was refused. -/
inductive Refusal where
  /-- There is no first token. -/
  | missingToken
  /-- What was asked for cannot be assembled. -/
  | error (cause : AssemblyError)
deriving DecidableEq, Repr

/-- Steps on the draft at hand. A failure keeps what was done before it. -/
abbrev Drafting := EStateM Refusal Draft

namespace Drafting

variable {α : Type}

/-- A step that leaves the draft alone. -/
def compute (outcome : Except AssemblyError α) : Drafting α :=
  MonadExcept.ofExcept (outcome.mapError .error)

def first : List α → Drafting α
  | [] => throw .missingToken
  | token :: _ => pure token

/-- Puts a piece behind the others, uncounted. -/
def put (piece : Piece) : Drafting Unit :=
  modify fun draft => { draft with pieces := draft.pieces.push piece }

def count (bytes : Nat) : Drafting Unit :=
  modify fun draft => { draft with size := draft.size + bytes }

/-- Makes a module the one that names belong to. -/
def enter (scope : String) : Drafting Unit :=
  modify fun draft => { draft with scope := scope }

def bytes (data : List UInt8) : Drafting Unit := do
  put (.bytes data)
  count data.length

def word (value : Int) : Drafting Unit := do
  bytes (← compute (wordBytes? value))

def link (base mask : Int) (target : Reference) : Drafting Unit := do
  let name ← compute ((← get).resolve target)
  put (.link base mask name)
  count 2

/-- Gives the name that is the first token to the current address. -/
def label (tokens : List String) : Drafting Unit := do
  let name ← first tokens
  let fullName := qualify (← get).scope name
  if ((← get).find? fullName).isSome then throw (.error (.rejected (.duplicateLabel fullName)))
  else modify fun draft => { draft with labels := draft.labels.push (fullName, draft.address) }

def instruction (opcode : Int) (parts : List (Field × Operand Int)) : Drafting Unit := do
  let encoding ← compute (Draft.encode opcode parts)
  match encoding.target with
  | some target => link encoding.word 0x0FFF target
  | none => word encoding.word

def byteRow (values : List Int) : Drafting Unit := do
  bytes (← compute (values.mapM Draft.byte?))

/-- Takes the first token as a word. -/
def operand (tokens : List (Operand Int)) : Drafting Unit := do
  match (← first tokens).value with
  | .inr target => link 0x0000 0xFFFF target
  | .inl value =>
    if 0 ≤ value ∧ value ≤ 0xFFFF then word value
    else throw (.error (.rejected (.wordOutOfRange value)))

def unknown (tokens : List String) : Drafting Unit := do
  let text ← first tokens
  throw (.error (.rejected (.unknownStatement (← get).scope text)))

end Drafting

/-- What can be asked of the draft at hand. -/
inductive Request where
  /-- To enter a module. -/
  | enter (scope : String)
  /-- To take a label. -/
  | label (tokens : List String)
  /-- To take an instruction. -/
  | instruction (opcode : Int) (parts : List (Field × Operand Int))
  /-- To take a row of numbers as bytes. -/
  | byteRow (values : List Int)
  /-- To take an operand as a word. -/
  | operand (tokens : List (Operand Int))
  /-- To take what no statement starts. -/
  | unknown (tokens : List String)
  /-- To take bytes as they are. -/
  | bytes (data : List UInt8)
  /-- To take a number as a word. -/
  | word (value : Int)
  /-- To take a word that refers to a label. -/
  | link (base mask : Int) (target : Reference)
deriving DecidableEq, Repr

def Request.steps : Request → Drafting Unit
  | .enter scope => Drafting.enter scope
  | .label tokens => Drafting.label tokens
  | .instruction opcode parts => Drafting.instruction opcode parts
  | .byteRow values => Drafting.byteRow values
  | .operand tokens => Drafting.operand tokens
  | .unknown tokens => Drafting.unknown tokens
  | .bytes data => Drafting.bytes data
  | .word value => Drafting.word value
  | .link base mask target => Drafting.link base mask target

/-- What a statement asks for. An instruction hands over the word of its form, and each operand with
the field that it goes into. -/
def Statement.request : Statement Int → Request
  | .label name => .label [name]
  | .instruction form operands => .instruction form.opcode (form.fields.zip operands)
  | .bytes values => .byteRow values
  | .word operand => .operand [operand]
  | .unknown text => .unknown [text]

namespace Draft

/-- The draft after a request, also after one that was refused. -/
def serve (draft : Draft) (request : Request) : Draft :=
  match request.steps.run draft with
  | .ok _ after => after
  | .error _ after => after

def serveAll (draft : Draft) (requests : List Request) : Draft := requests.foldl serve draft

end Draft

end Chip8.Assembly
