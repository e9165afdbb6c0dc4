import Chip8.Proofs.Assembly.Encoding

/-! # Listings

The listing of some sources is what the first pass works through: all their statements in order,
each with the name of its module. It settles, without any draft, where every label is (`labelsFrom`)
and which statement is the first at fault after those before it (`firstFault`).
-/

namespace Chip8.Assembly

/-- A statement and the name of the module that it stands in. -/
abbrev Listed := String × Statement Int

/-- An entry behind others stands where they end. -/
theorem getElem?_of_cut {listed before after : List Listed} {entry : Listed}
    (same : listed = before ++ entry :: after) : listed[before.length]? = some entry := by
  rw [same, List.getElem?_append_right (Nat.le_refl _), Nat.sub_self, List.getElem?_cons_zero]

/-- A list can be cut at each of its entries. -/
theorem cut_of_getElem? {α : Type} {listed : List α} {i : Nat} {entry : α}
    (here : listed[i]? = some entry) : listed = listed.take i ++ entry :: listed.drop (i + 1) := by
  obtain ⟨inside, same⟩ := List.getElem?_eq_some_iff.mp here
  rw [← same, ← List.drop_eq_getElem_cons inside, List.take_append_drop]

/-- The statements of some sources in order. -/
def listing (sources : List SourceModule) : List Listed :=
  sources.flatMap fun source =>
    ((read? source.text).getD []).map fun statement => (source.name, statement)

/-! ## What a statement stands for -/

namespace Statement

/-- The number of bytes that a statement takes in the program. -/
def size : Statement Int → Nat
  | .label _ | .unknown _ => 0
  | .instruction .. | .word _ => 2
  | .bytes values => values.length

/-- The reference that a statement leaves open. -/
def target? : Statement Int → Option Reference
  | .instruction _ operands => (references operands).head?
  | .word operand => operand.target?
  | .label _ | .bytes _ | .unknown _ => none

/-- The word that the address of the reference is joined to. -/
def base : Statement Int → Nat
  | .instruction form operands => form.word operands
  | .label _ | .bytes _ | .word _ | .unknown _ => 0

/-- The bits of the address that count. -/
def mask : Statement Int → Nat
  | .instruction .. => 0x0FFF
  | .label _ | .bytes _ | .word _ | .unknown _ => 0xFFFF

def ownBytes : Statement Int → List UInt8
  | .instruction form operands => bigEndian (form.word operands)
  | .bytes values => values.map fun value => UInt8.ofNat value.toNat
  | .word (.number value) => bigEndian value.toNat
  | .word _ | .label _ | .unknown _ => []

/-- The piece that a statement of a module adds to the program. -/
def piece? (scope : String) : Statement Int → Option Piece
  | .label _ | .unknown _ => none
  | statement => some <|
    match statement.target? with
    | some target => .link statement.base statement.mask (target.fullName scope)
    | none => .bytes statement.ownBytes

theorem piece?_eq_some {scope : String} {statement : Statement Int} {piece : Piece}
    (adds : statement.piece? scope = some piece) :
    piece =
      match statement.target? with
      | some target => .link statement.base statement.mask (target.fullName scope)
      | none => .bytes statement.ownBytes := by
  cases statement <;> cases adds <;> rfl

theorem piece?_of_target? {statement : Statement Int} {target : Reference}
    (refers : statement.target? = some target) (scope : String) :
    statement.piece? scope =
      some (.link statement.base statement.mask (target.fullName scope)) := by
  cases statement with
  | label | bytes | unknown => contradiction
  | instruction | word => simp only [piece?, refers]

theorem mask_lt (statement : Statement Int) : statement.mask < 2 ^ 16 := by
  cases statement <;> norm_num [mask]

end Statement

def totalSize (listed : List Listed) : Nat := (listed.map fun entry => entry.2.size).sum

theorem totalSize_append (front back : List Listed) :
    totalSize (front ++ back) = totalSize front + totalSize back := by
  rw [totalSize, List.map_append, List.sum_append_nat]
  rfl

/-- The full names of the listed labels with their addresses, when the first byte is at an
address. -/
def labelsFrom (address : Nat) : List Listed → List (String × Nat)
  | [] => []
  | (scope, .label name) :: rest => (qualify scope name, address) :: labelsFrom address rest
  | (_, statement) :: rest => labelsFrom (address + statement.size) rest

theorem labelsFrom_cons_label (address : Nat) (scope name : String) (rest : List Listed) :
    labelsFrom address ((scope, .label name) :: rest) =
      (qualify scope name, address) :: labelsFrom address rest := rfl

theorem labelsFrom_cons (address : Nat) (scope : String) {statement : Statement Int}
    (other : ∀ name, statement ≠ .label name) (rest : List Listed) :
    labelsFrom address ((scope, statement) :: rest) =
      labelsFrom (address + statement.size) rest := by
  cases statement with
  | label name => exact absurd rfl (other name)
  | _ => rfl

theorem labelsFrom_append (address : Nat) (front back : List Listed) :
    labelsFrom address (front ++ back) =
      labelsFrom address front ++ labelsFrom (address + totalSize front) back := by
  induction front generalizing address with
  | nil => rfl
  | cons entry rest ih =>
    obtain ⟨scope, statement⟩ := entry
    have size : totalSize ((scope, statement) :: rest) = statement.size + totalSize rest := rfl
    cases statement with
    | label name =>
      rw [List.cons_append, labelsFrom_cons_label, ih, labelsFrom_cons_label, List.cons_append,
        size]
      simp only [Statement.size, Nat.zero_add]
    | _ =>
      rw [List.cons_append, labelsFrom_cons _ _ (by simp), ih, labelsFrom_cons _ _ (by simp), size,
        Nat.add_assoc]

/-- Every address in the table belongs to a listed label. -/
theorem mem_labelsFrom {address : Nat} {listed : List Listed} {entry : String × Nat}
    (member : entry ∈ labelsFrom address listed) :
    ∃ before scope name after, listed = before ++ (scope, .label name) :: after ∧
      entry = (qualify scope name, address + totalSize before) := by
  induction listed generalizing address with
  | nil => contradiction
  | cons first rest ih =>
    obtain ⟨scope, statement⟩ := first
    by_cases label : ∃ name, statement = .label name
    · obtain ⟨name, rfl⟩ := label
      rw [labelsFrom_cons_label] at member
      rcases List.mem_cons.mp member with rfl | later
      · exact ⟨[], scope, name, rest, rfl, rfl⟩
      · obtain ⟨before, scope', name', after, rfl, rfl⟩ := ih later
        refine ⟨(scope, .label name) :: before, scope', name', after, rfl, ?_⟩
        simp only [totalSize, List.map_cons, List.sum_cons, Statement.size, Nat.zero_add]
    · rw [labelsFrom_cons _ _ (by rintro name rfl; exact label ⟨name, rfl⟩)] at member
      obtain ⟨before, scope', name', after, rfl, rfl⟩ := ih member
      refine ⟨(scope, statement) :: before, scope', name', after, rfl, ?_⟩
      simp only [totalSize, List.map_cons, List.sum_cons, Nat.add_assoc]

def addressOf? (listed : List Listed) (name : String) : Option Nat :=
  ((labelsFrom programStart listed).find? fun label => label.1 == name).map (·.2)

section Addresses

variable {listed before after : List Listed} {scope name : String}

private theorem find?_labelsFrom_eq_none (proper : ∀ entry ∈ listed, entry.2.Proper (0 ≤ ·))
    {address : Nat} (valid : IsName name) (absent : (scope, Statement.label name) ∉ listed) :
    (labelsFrom address listed).find? (fun label => label.1 == qualify scope name) = none := by
  rw [List.find?_eq_none]
  intro label member same
  obtain ⟨before, scope', name', after, rfl, rfl⟩ := mem_labelsFrom member
  have here : (scope', Statement.label name') ∈ before ++ (scope', .label name') :: after :=
    List.mem_append_right _ (List.mem_cons_self ..)
  obtain ⟨rfl, rfl⟩ := qualify_inj (proper _ here).isName valid (beq_iff_eq.mp same)
  exact absent here

/-- A label that is not listed has no address. -/
theorem addressOf?_eq_none (proper : ∀ entry ∈ listed, entry.2.Proper (0 ≤ ·)) (valid : IsName name)
    (absent : (scope, Statement.label name) ∉ listed) :
    addressOf? listed (qualify scope name) = none := by
  rw [addressOf?, find?_labelsFrom_eq_none proper valid absent, Option.map_none]

/-- A label is at the address that the sizes in front of its first occurrence give. -/
theorem addressOf?_label (proper : ∀ entry ∈ before, entry.2.Proper (0 ≤ ·)) (valid : IsName name)
    (absent : (scope, Statement.label name) ∉ before)
    (same : listed = before ++ (scope, .label name) :: after) :
    addressOf? listed (qualify scope name) = some (programStart + totalSize before) := by
  rw [addressOf?, same, labelsFrom_append, List.find?_append,
    find?_labelsFrom_eq_none proper valid absent, Option.none_or, labelsFrom_cons_label,
    List.find?_cons_of_pos (by exact beq_self_eq_true _), Option.map_some]

/-- The labels that have an address are those that are listed. -/
theorem addressOf?_isSome (proper : ∀ entry ∈ listed, entry.2.Proper (0 ≤ ·))
    (valid : IsName name) :
    (addressOf? listed (qualify scope name)).isSome ↔ (scope, Statement.label name) ∈ listed := by
  constructor
  · intro found
    by_contra absent
    rw [addressOf?_eq_none proper valid absent] at found
    contradiction
  · intro member
    obtain ⟨before, after, rfl, absent⟩ := List.eq_append_cons_of_mem member
    have properBefore : ∀ entry ∈ before, entry.2.Proper (0 ≤ ·) := fun entry earlier =>
      proper entry (List.mem_append_left _ earlier)
    rw [addressOf?_label properBefore valid absent rfl]
    rfl

/-- Every address belongs to a listed label. -/
theorem exists_of_addressOf?_eq_some {fullName : String} {address : Nat}
    (found : addressOf? listed fullName = some address) :
    ∃ before scope name after, listed = before ++ (scope, .label name) :: after ∧
      fullName = qualify scope name ∧ address = programStart + totalSize before := by
  obtain ⟨label, here, rfl⟩ := Option.map_eq_some_iff.mp found
  obtain ⟨before, scope, name, after, same, rfl⟩ := mem_labelsFrom (List.mem_of_find?_eq_some here)
  have named : (qualify scope name == fullName) = true := by
    have holds := List.find?_some here
    exact holds
  exact ⟨before, scope, name, after, same, (beq_iff_eq.mp named).symm, rfl⟩

end Addresses

/-! ## Faults -/

/-- What keeps a statement of a module out of the program, behind other statements. -/
def faultAfter (earlier : List Listed) (scope : String) : Statement Int → Option Rejection
  | .label name =>
    if (scope, .label name) ∈ earlier then some (.duplicateLabel (qualify scope name)) else none
  | .instruction form operands => form.overflow? operands
  | .bytes values =>
    values.findSome? fun value => if 0xFF < value then some (.byteOutOfRange value) else none
  | .word (.number value) => if 0xFFFF < value then some (.wordOutOfRange value) else none
  | .word _ => none
  | .unknown text => some (.unknownStatement scope text)

/-- What keeps the first faulty one of some statements out of the program, behind other statements.
-/
def firstFault (earlier : List Listed) : List Listed → Option Rejection
  | [] => none
  | entry :: rest =>
    (faultAfter earlier entry.1 entry.2).or (firstFault (earlier ++ [entry]) rest)

theorem firstFault_append (earlier front back : List Listed) :
    firstFault earlier (front ++ back) =
      (firstFault earlier front).or (firstFault (earlier ++ front) back) := by
  induction front generalizing earlier with
  | nil => rw [List.nil_append, firstFault, Option.none_or, List.append_nil]
  | cons entry rest ih =>
    rw [List.cons_append, firstFault, firstFault, ih, Option.or_assoc, List.append_assoc,
      List.singleton_append]

/-- The first fault is that of a statement behind others without one. -/
theorem exists_of_firstFault_eq_some {earlier listed : List Listed} {cause : Rejection}
    (fault : firstFault earlier listed = some cause) :
    ∃ before entry after, listed = before ++ entry :: after ∧ firstFault earlier before = none ∧
      faultAfter (earlier ++ before) entry.1 entry.2 = some cause := by
  induction listed generalizing earlier with
  | nil => contradiction
  | cons first rest ih =>
    rw [firstFault, Option.or_eq_some_iff] at fault
    rcases fault with here | ⟨fine, later⟩
    · refine ⟨[], first, rest, rfl, rfl, ?_⟩
      rw [List.append_nil]
      exact here
    · obtain ⟨before, entry, after, rfl, fineBefore, fault⟩ := ih later
      refine ⟨first :: before, entry, after, rfl, ?_, ?_⟩
      · rw [firstFault, fine, Option.none_or]
        exact fineBefore
      · rw [List.append_assoc] at fault
        exact fault

/-- There is no fault exactly when no statement is at fault after those before it. -/
theorem firstFault_eq_none {earlier listed : List Listed} :
    firstFault earlier listed = none ↔
      ∀ before entry after, listed = before ++ entry :: after →
        faultAfter (earlier ++ before) entry.1 entry.2 = none := by
  induction listed generalizing earlier with
  | nil => simp [firstFault]
  | cons first rest ih =>
    rw [firstFault, Option.or_eq_none_iff, ih]
    constructor
    · rintro ⟨here, later⟩ before entry after same
      cases before with
      | nil =>
        cases same
        rw [List.append_nil]
        exact here
      | cons head before =>
        cases same
        have fine := later before entry after rfl
        rw [List.append_assoc] at fine
        exact fine
    · intro fine
      constructor
      · have here := fine [] first rest rfl
        rw [List.append_nil] at here
        exact here
      · rintro before entry after rfl
        rw [List.append_assoc]
        exact fine (first :: before) entry after rfl

end Chip8.Assembly
