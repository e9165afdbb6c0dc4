import Mathlib.Algebra.Ring.Nat
import Mathlib.Data.List.Basic
import Chip8.Assembly.Draft.Request
import Chip8.Proofs.Lookup
import Chip8.Proofs.Outcome

/-! # Drafts under requests

A request is served as a whole or not at all: whatever step of it fails, no step before has changed
the draft (`Request.steps_yield`). What is served either enters a module, puts down a piece or
defines a label (`Draft.Change`). So the size of a draft is that of its pieces at any time, every
label is behind some of the pieces, and stays there (`Draft.requests_keep_layout`).
-/

namespace Chip8.Assembly

/-! ## Requests as a whole -/

namespace Draft

def meetLabel (draft : Draft) : List String → Except Refusal Draft
  | [] => .error .missingToken
  | name :: _ => (draft.addLabel name).mapError .error

def meetOperand (draft : Draft) : List (Operand Int) → Except Refusal Draft
  | [] => .error .missingToken
  | operand :: _ => (draft.addOperand operand).mapError .error

def meetUnknown (draft : Draft) : List String → Refusal
  | [] => .missingToken
  | text :: _ => .error (.rejected (.unknownStatement draft.scope text))

def meet (draft : Draft) : Request → Except Refusal Draft
  | .enter scope => .ok { draft with scope := scope }
  | .label tokens => draft.meetLabel tokens
  | .instruction opcode parts => (draft.addInstruction opcode parts).mapError .error
  | .byteRow values => (draft.addByteRow values).mapError .error
  | .operand tokens => draft.meetOperand tokens
  | .unknown tokens => .error (draft.meetUnknown tokens)
  | .bytes data => .ok (draft.addBytes data)
  | .word value => (draft.addWord value).mapError .error
  | .link base mask target => (draft.addLink base mask target).mapError .error

end Draft

namespace Drafting

/-- The steps come to a draft, or else to a refusal that leaves the draft as it was. -/
def Yields (steps : Drafting Unit) (draft : Draft) (outcome : Except Refusal Draft) : Prop :=
  steps.run draft =
    match outcome with
    | .ok after => .ok () after
    | .error refusal => .error refusal draft

variable (draft : Draft)

theorem bytes_yields (data : List UInt8) : (bytes data).Yields draft (.ok (draft.addBytes data)) :=
  rfl

theorem word_yields (value : Int) :
    (word value).Yields draft ((draft.addWord value).mapError .error) := by
  unfold Yields word Draft.addWord
  cases wordBytes? value <;> rfl

theorem link_yields (base mask : Int) (target : Reference) :
    (link base mask target).Yields draft ((draft.addLink base mask target).mapError .error) := by
  unfold Yields Draft.addLink
  have looked : (link base mask target).run draft =
      (do
        let name ← compute (draft.resolve target)
        put (.link base mask name)
        count 2 : Drafting Unit).run draft := rfl
  rw [looked]
  cases draft.resolve target <;> rfl

theorem label_yields (tokens : List String) :
    (label tokens).Yields draft (draft.meetLabel tokens) := by
  cases tokens with
  | nil => rfl
  | cons name rest =>
    have looked : (label (name :: rest)).run draft =
        (if (draft.find? (qualify draft.scope name)).isSome then
          throw (.error (.rejected (.duplicateLabel (qualify draft.scope name))))
        else modify fun before => { before with
          labels := before.labels.push (qualify draft.scope name, before.address) } :
          Drafting Unit).run draft := rfl
    unfold Yields Draft.meetLabel Draft.addLabel
    rw [looked]
    dsimp only
    split <;> rfl

theorem instruction_yields (opcode : Int) (parts : List (Field × Operand Int)) :
    (instruction opcode parts).Yields draft
      ((draft.addInstruction opcode parts).mapError .error) := by
  unfold Yields instruction Draft.addInstruction
  cases Draft.encode opcode parts with
  | error failure => rfl
  | ok encoding =>
    obtain ⟨word, target⟩ := encoding
    cases target with
    | none => exact word_yields draft word
    | some target => exact link_yields draft word 0x0FFF target

theorem byteRow_yields (values : List Int) :
    (byteRow values).Yields draft ((draft.addByteRow values).mapError .error) := by
  unfold Yields byteRow Draft.addByteRow
  cases values.mapM Draft.byte? <;> rfl

theorem operand_yields (tokens : List (Operand Int)) :
    (operand tokens).Yields draft (draft.meetOperand tokens) := by
  cases tokens with
  | nil => rfl
  | cons token rest =>
    unfold Yields operand Draft.meetOperand Draft.addOperand
    cases meant : token.value with
    | inr target =>
      simp only [first, pure_bind, meant]
      exact link_yields draft 0x0000 0xFFFF target
    | inl value =>
      simp only [first, pure_bind, meant]
      split
      · exact word_yields draft value
      · rfl

theorem unknown_yields (tokens : List String) :
    (unknown tokens).Yields draft (.error (draft.meetUnknown tokens)) := by
  cases tokens <;> rfl

end Drafting

/-- A request comes to a draft, or else to a refusal that leaves the draft as it was. -/
theorem Request.steps_yield (request : Request) (draft : Draft) :
    request.steps.Yields draft (draft.meet request) := by
  cases request with
  | enter scope => rfl
  | label tokens => exact Drafting.label_yields draft tokens
  | instruction opcode parts => exact Drafting.instruction_yields draft opcode parts
  | byteRow values => exact Drafting.byteRow_yields draft values
  | operand tokens => exact Drafting.operand_yields draft tokens
  | unknown tokens => exact Drafting.unknown_yields draft tokens
  | bytes data => exact Drafting.bytes_yields draft data
  | word value => exact Drafting.word_yields draft value
  | link base mask target => exact Drafting.link_yields draft base mask target

namespace Draft

variable {draft after : Draft} {request : Request}

theorem eq_of_refused {refusal : Refusal}
    (refused : request.steps.run draft = .error refusal after) : after = draft := by
  have whole := request.steps_yield draft
  unfold Drafting.Yields at whole
  rw [refused] at whole
  split at whole <;> cases whole
  rfl

theorem serve_eq (draft : Draft) (request : Request) :
    draft.serve request = (draft.meet request).toOption.getD draft := by
  have whole := request.steps_yield draft
  unfold Drafting.Yields at whole
  rw [serve, whole]
  cases draft.meet request <;> rfl

/-- A statement changes the draft as its request does. -/
theorem serve_request (draft : Draft) (statement : Statement Int) :
    draft.serve statement.request = (draft.addStatement statement).toOption.getD draft := by
  have met : draft.meet statement.request = (draft.addStatement statement).mapError .error := by
    cases statement <;> rfl
  rw [serve_eq, met]
  cases draft.addStatement statement <;> rfl

/-! ## What requests can do -/

/-- What a request does to a draft if it is not refused: it enters a module, puts down a piece, or
gives a new name to the current address. -/
inductive Change (before : Draft) : Draft → Prop where
  | enter (scope : String) : Change before { before with scope := scope }
  | push (piece : Piece) : Change before (before.push piece)
  | label {name : String} (fresh : before.find? name = none) :
      Change before { before with labels := before.labels.push (name, before.address) }

theorem change_of_addWord {value : Int} (added : draft.addWord value = .ok after) :
    draft.Change after := by
  obtain ⟨data, _, same⟩ := Outcome.bind_eq_ok.mp added
  cases same
  exact .push _

theorem change_of_addLink {base mask : Int} {target : Reference}
    (added : draft.addLink base mask target = .ok after) : draft.Change after := by
  obtain ⟨name, _, same⟩ := Outcome.bind_eq_ok.mp added
  cases same
  exact .push _

theorem change_of_addByteRow {values : List Int} (added : draft.addByteRow values = .ok after) :
    draft.Change after := by
  obtain ⟨data, _, same⟩ := Outcome.bind_eq_ok.mp added
  cases same
  exact .push _

theorem change_of_addLabel {name : String} (added : draft.addLabel name = .ok after) :
    draft.Change after := by
  simp only [addLabel] at added
  split at added
  · contradiction
  · rename_i known
    cases added
    exact .label (Option.not_isSome_iff_eq_none.mp known)

theorem change_of_addInstruction {opcode : Int} {parts : List (Field × Operand Int)}
    (added : draft.addInstruction opcode parts = .ok after) : draft.Change after := by
  obtain ⟨encoding, _, added⟩ := Outcome.bind_eq_ok.mp added
  split at added
  · exact change_of_addLink added
  · exact change_of_addWord added

theorem change_of_addOperand {operand : Operand Int}
    (added : draft.addOperand operand = .ok after) : draft.Change after := by
  unfold addOperand at added
  split at added
  · exact change_of_addLink added
  · split at added
    · exact change_of_addWord added
    · contradiction

theorem change_of_meet (met : draft.meet request = .ok after) : draft.Change after := by
  cases request with
  | enter scope =>
    cases met
    exact .enter scope
  | label tokens =>
    cases tokens with
    | nil => contradiction
    | cons name rest => exact change_of_addLabel (Outcome.mapError_eq_ok.mp met)
  | instruction opcode parts => exact change_of_addInstruction (Outcome.mapError_eq_ok.mp met)
  | byteRow values => exact change_of_addByteRow (Outcome.mapError_eq_ok.mp met)
  | operand tokens =>
    cases tokens with
    | nil => contradiction
    | cons operand rest => exact change_of_addOperand (Outcome.mapError_eq_ok.mp met)
  | unknown tokens => contradiction
  | bytes data =>
    cases met
    exact .push _
  | word value => exact change_of_addWord (Outcome.mapError_eq_ok.mp met)
  | link base mask target => exact change_of_addLink (Outcome.mapError_eq_ok.mp met)

/-- A request that is served changes the draft in one of these ways, or not at all. -/
theorem change_of_serve (draft : Draft) (request : Request) :
    draft.serve request = draft ∨ draft.Change (draft.serve request) := by
  rw [serve_eq]
  cases met : draft.meet request with
  | error refusal => exact .inl rfl
  | ok after => exact .inr (change_of_meet met)

/-! ## Sizes and labels -/

def bytesOf (pieces : List Piece) : Nat := (pieces.map Piece.size).sum

/-- The size is that of the pieces, and every name has one address, which is behind some of them. -/
structure LaidOut (draft : Draft) : Prop where
  size : draft.size = bytesOf draft.pieces.toList
  names : (draft.labels.toList.map Prod.fst).Nodup
  behind : ∀ label ∈ draft.labels.toList, ∃ front back,
    draft.pieces.toList = front ++ back ∧ label.2 = programStart + bytesOf front

theorem laidOut_empty : empty.LaidOut := ⟨rfl, List.nodup_nil, by simp [empty]⟩

theorem LaidOut.find?_eq_some_iff (laid : draft.LaidOut) {name : String} {address : Nat} :
    draft.find? name = some address ↔ (name, address) ∈ draft.labels := by
  rw [find?, ← Array.find?_toList, Lookup.find?_eq_some_iff laid.names, Array.mem_toList_iff]

theorem find?_eq_none_iff {name : String} :
    draft.find? name = none ↔ name ∉ draft.labels.toList.map Prod.fst := by
  rw [find?, ← Array.find?_toList, Lookup.find?_eq_none_iff]

theorem LaidOut.address_eq (laid : draft.LaidOut) :
    draft.address = programStart + bytesOf draft.pieces.toList := by
  rw [address, laid.size]

theorem LaidOut.change (laid : draft.LaidOut) (change : draft.Change after) : after.LaidOut := by
  cases change with
  | enter scope => exact ⟨laid.size, laid.names, laid.behind⟩
  | push piece =>
    have pieces : (draft.push piece).pieces.toList = draft.pieces.toList ++ [piece] :=
      Array.toList_push
    refine ⟨?_, laid.names, fun label member => ?_⟩
    · rw [pieces, bytesOf, List.map_append, List.sum_append, push, laid.size]
      rfl
    · obtain ⟨front, back, cut, place⟩ := laid.behind label member
      exact ⟨front, back ++ [piece], by rw [pieces, cut, List.append_assoc], place⟩
  | @label name fresh =>
    have labels : (draft.labels.push (name, draft.address)).toList =
        draft.labels.toList ++ [(name, draft.address)] := Array.toList_push
    refine ⟨laid.size, ?_, fun label member => ?_⟩
    · have absent := find?_eq_none_iff.mp fresh
      rw [labels, List.map_append, List.map_singleton]
      exact List.Nodup.append laid.names (List.nodup_singleton name)
        (List.disjoint_singleton.mpr absent)
    · rw [labels] at member
      rcases List.mem_append.mp member with earlier | last
      · exact laid.behind label earlier
      · cases List.mem_singleton.mp last
        exact ⟨draft.pieces.toList, [], (List.append_nil _).symm, laid.address_eq⟩

/-- No change takes away what a label is defined as. -/
theorem Change.labels_subset (change : draft.Change after) {label : String × Nat}
    (member : label ∈ draft.labels) : label ∈ after.labels := by
  cases change with
  | enter | push => exact member
  | label fresh => exact Array.mem_push_of_mem _ member

theorem LaidOut.serve (laid : draft.LaidOut) (request : Request) :
    (draft.serve request).LaidOut := by
  rcases draft.change_of_serve request with same | change
  · exact same.symm ▸ laid
  · exact laid.change change

theorem LaidOut.serveAll (laid : draft.LaidOut) (requests : List Request) :
    (draft.serveAll requests).LaidOut := by
  induction requests generalizing draft with
  | nil => exact laid
  | cons request rest ih => exact ih (laid.serve request)

theorem labels_serveAll (requests : List Request) {label : String × Nat}
    (member : label ∈ draft.labels) : label ∈ (draft.serveAll requests).labels := by
  induction requests generalizing draft with
  | nil => exact member
  | cons request rest ih =>
    apply ih
    rcases draft.change_of_serve request with same | change
    · exact same.symm ▸ member
    · exact change.labels_subset member

/-! ## Drafts that requests bring about -/

/-- A draft that has come from no source at all by requests, served or refused. -/
def Reached (draft : Draft) : Prop := ∃ requests, draft = empty.serveAll requests

/-- Whatever was asked of a draft, the next address tells the size of its pieces. Each label in its
table has one address, which is that behind some of the pieces, and keeps it whatever else is asked.
A request that is refused, at whatever step, leaves the draft as it was. -/
theorem requests_keep_layout (reached : draft.Reached) :
    draft.address = programStart + bytesOf draft.pieces.toList ∧
    (∀ name address, (name, address) ∈ draft.labels ↔ draft.find? name = some address) ∧
    (∀ name address, draft.find? name = some address → ∃ front back,
      draft.pieces.toList = front ++ back ∧ address = programStart + bytesOf front) ∧
    (∀ requests name address, draft.find? name = some address →
      (draft.serveAll requests).find? name = some address) ∧
    ∀ request refusal after, (Request.steps request).run draft = .error refusal after →
      after = draft := by
  obtain ⟨requests, rfl⟩ := reached
  have laid := laidOut_empty.serveAll requests
  refine ⟨laid.address_eq, fun name address => laid.find?_eq_some_iff.symm, ?_, ?_, ?_⟩
  · intro name address found
    exact laid.behind (name, address) (Array.mem_toList_iff.mpr (laid.find?_eq_some_iff.mp found))
  · intro later name address found
    rw [(laid.serveAll later).find?_eq_some_iff]
    exact labels_serveAll later (laid.find?_eq_some_iff.mp found)
  · intro request refusal after refused
    exact eq_of_refused refused

/-- Requests of two modules, of which some are refused: a label that is there already, one without
a name, a reference to nothing, a number that is too large for its field and one for a word. -/
def someRefused : List Request :=
  [.bytes [1, 2, 3], .label ["loop"], .label ["loop"], .label [], .enter "m",
    .operand [.reference ⟨["loop"]⟩], .link 0x1000 0x0FFF ⟨[]⟩,
    .instruction 0x6000 [(⟨8, 15⟩, .number 16)], .word 0x10000, .label ["loop"], .byteRow [7]]

theorem someRefused_keep_layout :
    (empty.serveAll someRefused).address = 0x206 ∧
      ((empty.serveAll someRefused).serveAll [.label ["loop"], .enter "<global>",
        .label ["loop", "end"]]).find? "m::loop" = some 0x205 ∧
      (∃ front back, (empty.serveAll someRefused).pieces.toList = front ++ back ∧
        0x203 = programStart + bytesOf front) ∧
      ∀ refusal after, (Request.steps (.label ["loop"])).run (empty.serveAll someRefused) =
        .error refusal after → after = empty.serveAll someRefused := by
  obtain ⟨address, _, behind, kept, refused⟩ := requests_keep_layout ⟨someRefused, rfl⟩
  refine ⟨address.trans ?_, kept _ _ _ ?_, behind "<global>::loop" _ ?_, refused _⟩
  · decide +kernel
  · decide +kernel
  · decide +kernel

end Draft

end Chip8.Assembly
