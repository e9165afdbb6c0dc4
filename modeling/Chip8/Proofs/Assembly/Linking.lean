import Chip8.Proofs.Assembly.Drafting

/-! # The second pass

Linking gives every listed statement its bytes: those of its own, or, where it refers to a label,
the word that joins the label's address to its base (`Statement.linked`). With the first pass before
it and the check of the size behind it, that tells what assembling does (`assemble_eq`).
-/

namespace Chip8.Assembly

/-- The bytes of a statement of a module among listed statements. -/
def Statement.linked (listed : List Listed) (scope : String) (statement : Statement Int) :
    List UInt8 :=
  match statement.target? with
  | some target =>
    bigEndian (statement.base |||
      ((addressOf? listed (target.fullName scope)).getD 0 &&& statement.mask))
  | none => statement.ownBytes

/-- What is wrong with a reference to a label that is not listed. -/
def Statement.dangling? (listed : List Listed) (scope : String) (statement : Statement Int) :
    Option Rejection :=
  statement.target?.bind fun target =>
    match addressOf? listed (target.fullName scope) with
    | some _ => none
    | none => some (.undefinedLabel (target.fullName scope))

namespace Draft

variable {listed : List Listed} {last scope : String}

/-- A word is linked within sixteen bits. -/
private theorem linked_lt {base mask : Nat} (small : base < 2 ^ 16) (narrow : mask < 2 ^ 16)
    (address : Nat) : base ||| (address &&& mask) < 2 ^ 16 :=
  Nat.or_lt_two_pow small (Nat.lt_of_le_of_lt Nat.and_le_right narrow)

theorem linkPiece_link {base mask : Nat} (small : base < 2 ^ 16) (narrow : mask < 2 ^ 16)
    (name : String) :
    (ofListing last listed).linkPiece (.link base mask name) =
      match addressOf? listed name with
      | some address => .ok (bigEndian (base ||| (address &&& mask)))
      | none => .error (.rejected (.undefinedLabel name)) := by
  rw [linkPiece, find?_ofListing]
  cases addressOf? listed name with
  | none => rfl
  | some address =>
    dsimp only
    rw [Numeric.keepBits_natCast, Numeric.joinBits_natCast,
      wordBytes?_natCast (linked_lt small narrow address)]

theorem linkPiece_piece {statement : Statement Int} (small : statement.base < 2 ^ 16)
    {piece : Piece} (adds : statement.piece? scope = some piece) :
    (ofListing last listed).linkPiece piece =
      Outcome.checked ((statement.dangling? listed scope).map .rejected)
        (statement.linked listed scope) := by
  have shape := Statement.piece?_eq_some adds
  cases left : statement.target? with
  | none =>
    rw [left] at shape
    rw [shape, Statement.dangling?, Statement.linked, left]
    rfl
  | some target =>
    rw [left] at shape
    rw [shape, linkPiece_link small statement.mask_lt, Statement.dangling?, Statement.linked, left,
      Option.bind_some]
    dsimp only
    cases addressOf? listed (target.fullName scope) <;> rfl

theorem linked_of_no_piece (listed : List Listed) {statement : Statement Int}
    (none : statement.piece? scope = none) :
    statement.dangling? listed scope = .none ∧ statement.linked listed scope = [] := by
  cases statement with
  | label name => exact ⟨rfl, rfl⟩
  | unknown text => exact ⟨rfl, rfl⟩
  | _ => cases none

/-- The pieces of statements whose words fit are linked up to the first reference to nothing. -/
theorem mapM_linkPiece (last : String) (listed : List Listed) {entries : List Listed}
    (small : ∀ entry ∈ entries, entry.2.base < 2 ^ 16) :
    ∃ chunks,
      (entries.filterMap fun entry => entry.2.piece? entry.1).mapM
          (ofListing last listed).linkPiece =
        Outcome.checked
          ((entries.findSome? fun entry => entry.2.dangling? listed entry.1).map .rejected) chunks ∧
      chunks.flatten = entries.flatMap fun entry => entry.2.linked listed entry.1 := by
  induction entries with
  | nil => exact ⟨[], rfl, rfl⟩
  | cons entry rest ih =>
    have smallRest : ∀ other ∈ rest, other.2.base < 2 ^ 16 := fun other member =>
      small other (List.mem_cons_of_mem _ member)
    obtain ⟨chunks, later, flat⟩ := ih smallRest
    have smallHere := small entry (List.mem_cons_self ..)
    cases adds : entry.2.piece? entry.1 with
    | none =>
      obtain ⟨fine, empty⟩ := linked_of_no_piece listed adds
      refine ⟨chunks, ?_, ?_⟩
      · simp only [List.filterMap_cons, adds, later, List.findSome?_cons, fine]
      · rw [flat, List.flatMap_cons, empty, List.nil_append]
    | some piece =>
      refine ⟨entry.2.linked listed entry.1 :: chunks, ?_, ?_⟩
      · simp only [List.filterMap_cons, adds]
        rw [List.mapM_cons, linkPiece_piece smallHere adds, later, Outcome.checked_bind,
          List.findSome?_cons]
        cases entry.2.dangling? listed entry.1 with
        | some fault => rfl
        | none =>
          rw [Option.map_none]
          dsimp only
          rw [Outcome.checked_bind]
          cases rest.findSome? _ <;> rfl
      · rw [List.flatten_cons, flat, List.flatMap_cons]

end Draft

def linkedBytes (listed : List Listed) : List UInt8 :=
  listed.flatMap fun entry => entry.2.linked listed entry.1

def firstDangling (listed : List Listed) : Option Rejection :=
  listed.findSome? fun entry => entry.2.dangling? listed entry.1

/-- What is wrong with a listing: its first faulty statement, or else its first reference to
nothing, or else its size. -/
def rejection? (listed : List Listed) : Option Rejection :=
  (firstFault [] listed).or <| (firstDangling listed).or <|
    if maxProgramSize < totalSize listed then some (.programTooLarge (totalSize listed)) else none

theorem rejection?_eq_none {listed : List Listed} :
    rejection? listed = none ↔
      firstFault [] listed = none ∧ (∀ entry ∈ listed, entry.2.dangling? listed entry.1 = none) ∧
        totalSize listed ≤ maxProgramSize := by
  rw [rejection?, Option.or_eq_none_iff, Option.or_eq_none_iff, firstDangling,
    List.findSome?_eq_none_iff]
  by_cases large : maxProgramSize < totalSize listed
  · simp [large]
  · simp [large, Nat.le_of_not_lt large]

/-! ## Sizes -/

/-- Whatever the labels are, a statement gets as many bytes as the first pass gave it. -/
theorem Statement.Proper.linked_length {statement : Statement Int}
    (proper : statement.Proper (0 ≤ ·)) (listed : List Listed) (scope : String) :
    (statement.linked listed scope).length = statement.size := by
  cases proper with
  | label => rfl
  | unknown => rfl
  | instruction =>
    rw [linked]
    split <;> rfl
  | bytes => exact List.length_map _
  | word admits => cases admits <;> rfl

theorem linked_length {listed entries : List Listed}
    (proper : ∀ entry ∈ entries, entry.2.Proper (0 ≤ ·)) :
    (entries.flatMap fun entry => entry.2.linked listed entry.1).length = totalSize entries := by
  rw [List.length_flatMap, totalSize]
  congr 1
  apply List.map_congr_left
  intro entry member
  exact (proper entry member).linked_length listed entry.1

/-- Among statements without a fault every word fits into sixteen bits. -/
theorem base_lt {listed : List Listed} (proper : ∀ entry ∈ listed, entry.2.Proper (0 ≤ ·))
    (fine : firstFault [] listed = none) : ∀ entry ∈ listed, entry.2.base < 2 ^ 16 := by
  rintro ⟨scope, statement⟩ member
  obtain ⟨before, after, same⟩ := List.append_of_mem member
  have here := firstFault_eq_none.mp fine before (scope, statement) after same
  cases proper _ member with
  | instruction fit => exact Form.word_lt fit here
  | _ => exact Nat.two_pow_pos 16

/-! ## Programs -/

theorem Draft.link_ofListing (last : String) {listed : List Listed}
    (small : ∀ entry ∈ listed, entry.2.base < 2 ^ 16) :
    (Draft.ofListing last listed).link =
      Outcome.checked ((firstDangling listed).map .rejected) (linkedBytes listed) := by
  obtain ⟨chunks, linked, flat⟩ := Draft.mapM_linkPiece last listed small
  rw [Draft.link, linkedBytes, ← flat, firstDangling]
  refine (congrArg (· >>= _) linked).trans ?_
  rw [Outcome.checked_bind]
  cases listed.findSome? _ <;> rfl

/-- Assembling sources that can be read gives the bytes of all statements unless something is wrong
with the listing. -/
theorem assemble_eq {sources : List SourceModule}
    (readable : ∀ source ∈ sources, ∃ statements, source.statements = .ok statements) :
    assemble sources =
      Outcome.checked ((rejection? (listing sources)).map .rejected)
        (linkedBytes (listing sources)) := by
  obtain ⟨last, drafted⟩ := draft_eq readable
  have proper := listing_proper sources
  have length : (linkedBytes (listing sources)).length = totalSize (listing sources) :=
    linked_length proper
  rw [assemble, drafted, rejection?]
  cases fine : firstFault [] (listing sources) with
  | some fault => rfl
  | none =>
    have linked := Draft.link_ofListing last (base_lt proper fine)
    rw [Option.map_none, Option.none_or, Outcome.checked_bind]
    dsimp only
    rw [linked, Outcome.checked_bind]
    cases firstDangling (listing sources) with
    | some fault => rfl
    | none =>
      rw [Option.map_none, Option.none_or]
      dsimp only
      rw [length]
      by_cases large : maxProgramSize < totalSize (listing sources)
      · rw [if_pos large, if_pos large]
        rfl
      · rw [if_neg large, if_neg large]
        rfl

end Chip8.Assembly
