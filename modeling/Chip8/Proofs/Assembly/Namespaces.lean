import Chip8.Proofs.Assembly.Layout
import Chip8.Proofs.Assembly.Rejection

/-! # Modules as namespaces

All labels stand in one table, under their full names. A full name tells the module and the label
apart, so the entry that a reference finds is that of the label that it means and no other
(`resolves_iff`), and the word of the reference is filled in with its address
(`StandsAt.filledAt`): the labels of other modules make no difference (`modules_are_namespaces`).
-/

namespace Chip8.Assembly

/-! ## Places -/

/-- The place of a statement: the number of its source and its own number in there. -/
structure Place where
  source : Nat
  statement : Nat

def StandsAt (sources : List SourceModule) (place : Place) (scope : String)
    (statement : Statement Int) : Prop :=
  ∃ source statements, sources[place.source]? = some source ∧ source.name = scope ∧
    source.statements = .ok statements ∧ statements[place.statement]? = some statement

/-- The draft to which the statement at a place is added. -/
def draftAt (sources : List SourceModule) (place : Place) : Except AssemblyError Draft := do
  let before ← draft (sources.take place.source)
  match sources[place.source]? with
  | none => .ok before
  | some source =>
    let statements ← source.statements
    { before with scope := source.name }.addStatements (statements.take place.statement)

/-- The statement at a place turns a draft into the next one. -/
def AddsAt (sources : List SourceModule) (place : Place) (here next : Draft) : Prop :=
  draftAt sources place = .ok here ∧
    ∃ scope statement, StandsAt sources place scope statement ∧
      here.addStatement statement = .ok next

/-- The statement at a place adds a word that is left open for the address of a full name. -/
def LinksAt (sources : List SourceModule) (place : Place) (name : String) : Prop :=
  ∃ here next base mask, AddsAt sources place here next ∧
    next.pieces = here.pieces.push (.link base mask name)

/-- The statement at a place makes the entry of a number in the table of labels. -/
def EntersAt (sources : List SourceModule) (place : Place) (number : Nat) : Prop :=
  ∃ here next entry, AddsAt sources place here next ∧ next.labels = here.labels.push entry ∧
    number = here.labels.size

/-- A reference resolves to a label: of all entries in the table, the one that the label made is
found under the name for which the word of the reference is left open. -/
def Resolves (sources : List SourceModule) (reference label : Place) : Prop :=
  ∃ first name number, draft sources = .ok first ∧ LinksAt sources reference name ∧
    EntersAt sources label number ∧
    first.labels.findIdx? (fun entry => entry.1 == name) = some number

/-- The word that the statement at a place leaves open for the address of a full name is filled in:
where the statement begins in the program stand the two bytes of its base with an address joined to
it. -/
def FilledAt (sources : List SourceModule) (place : Place) (name : String) (address : Nat)
    (program : List UInt8) : Prop :=
  ∃ here next base mask, AddsAt sources place here next ∧
    next.pieces = here.pieces.push (.link base mask name) ∧
    wordBytes? (Numeric.joinBits base (Numeric.keepBits address mask)) =
      .ok ((program.drop here.size).take 2)

variable {sources : List SourceModule} {place : Place} {scope : String}
  {statement : Statement Int} {first : Draft}

theorem StandsAt.unique (stands : StandsAt sources place scope statement) {scope' : String}
    {statement' : Statement Int} (again : StandsAt sources place scope' statement') :
    scope' = scope ∧ statement' = statement := by
  obtain ⟨source, statements, here, rfl, read, found⟩ := stands
  obtain ⟨source', statements', here', rfl, read', found'⟩ := again
  cases here.symm.trans here'
  cases read.symm.trans read'
  cases found.symm.trans found'
  exact ⟨rfl, rfl⟩

theorem StandsAt.proper (stands : StandsAt sources place scope statement) :
    statement.Proper (0 ≤ ·) := by
  obtain ⟨source, statements, _, _, read, found⟩ := stands
  exact SourceModule.statements_proper read statement (List.mem_of_getElem? found)

theorem StandsAt.isName {name : String} (stands : StandsAt sources place scope (.label name)) :
    IsName name := stands.proper.isName

theorem StandsAt.label_iff {name : String} (stands : StandsAt sources place scope (.label name))
    {owner name' : String} :
    StandsAt sources place owner (.label name') ↔ scope = owner ∧ name = name' := by
  constructor
  · intro again
    obtain ⟨scopes, labels⟩ := again.unique stands
    cases labels
    exact ⟨scopes, rfl⟩
  · rintro ⟨rfl, rfl⟩
    exact stands

/-- Listed in front of a statement are those of the sources in front of its own and those in front
of it in there. -/
theorem exists_listing_cut {source : SourceModule} {statements : List (Statement Int)}
    (here : sources[place.source]? = some source) (read : source.statements = .ok statements)
    (found : statements[place.statement]? = some statement) :
    ∃ after, listing sources =
      (listing (sources.take place.source) ++
        (statements.take place.statement).map fun s => (source.name, s)) ++
          (source.name, statement) :: after := by
  have front : listing sources = listing (sources.take place.source) ++
      ((statements.map fun s => (source.name, s)) ++
        listing (sources.drop (place.source + 1))) := by
    rw [← listing_cons read, ← listing_append, ← cut_of_getElem? here]
  have inside : (statements.map fun s => (source.name, s)) =
      ((statements.take place.statement).map fun s => (source.name, s)) ++
        (source.name, statement) ::
          (statements.drop (place.statement + 1)).map fun s => (source.name, s) := by
    rw [← List.map_cons, ← List.map_append, ← cut_of_getElem? found]
  rw [inside, List.append_assoc, ← List.append_assoc] at front
  exact ⟨_, front⟩

/-- The statements in front of a place are drafted when its own is added. -/
theorem StandsAt.exists_cut (stands : StandsAt sources place scope statement)
    (drafted : draft sources = .ok first) :
    ∃ before after, listing sources = before ++ (scope, statement) :: after ∧
      draftAt sources place = .ok (.ofListing scope before) := by
  obtain ⟨source, statements, here, rfl, read, found⟩ := stands
  obtain ⟨readable, fine⟩ := exists_draft_iff.mp ⟨first, drafted⟩
  obtain ⟨after, cut⟩ := exists_listing_cut here read found
  refine ⟨_, after, cut, ?_⟩
  rw [cut, firstFault_append, Option.or_eq_none_iff, firstFault_append,
    Option.or_eq_none_iff, List.nil_append] at fine
  obtain ⟨⟨fineSources, fineStatements⟩, _⟩ := fine
  have readableFront : ∀ other ∈ sources.take place.source,
      ∃ statements, other.statements = .ok statements :=
    fun other member => readable other (List.mem_of_mem_take member)
  obtain ⟨last, start⟩ := draft_eq readableFront
  rw [fineSources] at start
  have properFront : ∀ other ∈ statements.take place.statement, other.Proper (0 ≤ ·) :=
    fun other member => SourceModule.statements_proper read other (List.mem_of_mem_take member)
  have added : (Draft.ofListing source.name (listing (sources.take place.source))).addStatements
      (statements.take place.statement) = _ :=
    Draft.addStatements_ofListing (listing_proper (sources.take place.source)) properFront
  rw [fineStatements] at added
  refine Outcome.bind_eq_ok.mpr ⟨_, start, ?_⟩
  rw [here]
  exact Outcome.bind_eq_ok.mpr ⟨statements, read, added⟩

/-- What the statement at a place adds. -/
theorem StandsAt.addsAt_iff (stands : StandsAt sources place scope statement)
    (drafted : draft sources = .ok first) :
    ∃ before after, listing sources = before ++ (scope, statement) :: after ∧
      ∀ here next, AddsAt sources place here next ↔
        here = .ofListing scope before ∧
          next = .ofListing scope (before ++ [(scope, statement)]) := by
  obtain ⟨before, after, same, reached⟩ := stands.exists_cut drafted
  have proper : ∀ entry ∈ before ++ (scope, statement) :: after, entry.2.Proper (0 ≤ ·) :=
    same ▸ listing_proper sources
  have fine := firstFault_eq_none.mp (exists_draft_iff.mp ⟨first, drafted⟩).2 _ _ _ same
  have added : (Draft.ofListing scope before).addStatement statement = _ :=
    Draft.addStatement_ofListing (fun entry member => proper entry (List.mem_append_left _ member))
      (proper _ (List.mem_append_right _ (List.mem_cons_self ..)))
  rw [List.nil_append] at fine
  dsimp only at fine
  rw [fine] at added
  refine ⟨before, after, same, fun here next => ?_⟩
  constructor
  · rintro ⟨start, scope', statement', again, adds⟩
    obtain ⟨rfl, rfl⟩ := stands.unique again
    cases reached.symm.trans start
    cases added.symm.trans adds
    exact ⟨rfl, rfl⟩
  · rintro ⟨rfl, rfl⟩
    exact ⟨reached, scope, statement, stands, added⟩

/-! ## References and labels -/

/-- A reference leaves its word open for the full name of the label that it means. -/
theorem StandsAt.linksAt_iff (stands : StandsAt sources place scope statement)
    (drafted : draft sources = .ok first) {target : Reference}
    (among : target ∈ statement.references) {name : String} :
    LinksAt sources place name ↔ name = target.fullName scope := by
  obtain ⟨before, after, same, adds⟩ := stands.addsAt_iff drafted
  have piece := Statement.piece?_of_target? (stands.proper.target?_eq_some.mpr among) scope
  have pieces : (Draft.ofListing scope (before ++ [(scope, statement)])).pieces =
      (Draft.ofListing scope before).pieces.push
        (.link statement.base statement.mask (target.fullName scope)) := by
    simp [Draft.ofListing, piece]
  constructor
  · rintro ⟨here, next, base, mask, added, grown⟩
    obtain ⟨rfl, rfl⟩ := (adds here next).mp added
    have last := Array.push_inj_right.mp (grown.symm.trans pieces)
    cases last
    rfl
  · rintro rfl
    exact ⟨_, _, _, _, (adds _ _).mpr ⟨rfl, rfl⟩, pieces⟩

/-- A label makes the entry behind those of the labels in front of it. -/
theorem StandsAt.entersAt_iff {name : String} (stands : StandsAt sources place scope (.label name))
    (drafted : draft sources = .ok first) :
    ∃ before after, listing sources = before ++ (scope, .label name) :: after ∧
      draftAt sources place = .ok (.ofListing scope before) ∧
      ∀ number, EntersAt sources place number ↔
        number = (labelsFrom programStart before).length := by
  obtain ⟨before, after, same, adds⟩ := stands.addsAt_iff drafted
  refine ⟨before, after, same, ((adds _ _).mpr ⟨rfl, rfl⟩).1, fun number => ?_⟩
  constructor
  · rintro ⟨here, next, entry, added, _, rfl⟩
    obtain ⟨rfl, rfl⟩ := (adds here next).mp added
    rfl
  · rintro rfl
    refine ⟨_, _, (qualify scope name, programStart + totalSize before),
      (adds _ _).mpr ⟨rfl, rfl⟩, ?_, rfl⟩
    simp [Draft.ofListing, labelsFrom_append, labelsFrom]

/-- What makes an entry is a label. -/
theorem exists_label_of_entersAt (drafted : draft sources = .ok first) {number : Nat}
    (enters : EntersAt sources place number) :
    ∃ scope name, StandsAt sources place scope (.label name) := by
  obtain ⟨here, next, entry, added, grown, _⟩ := enters
  obtain ⟨_, scope, statement, stands, _⟩ := id added
  by_cases label : ∃ name, statement = .label name
  · obtain ⟨name, rfl⟩ := label
    exact ⟨scope, name, stands⟩
  · have other : ∀ name, statement ≠ .label name := fun name same => label ⟨name, same⟩
    obtain ⟨before, after, _, adds⟩ := stands.addsAt_iff drafted
    obtain ⟨rfl, rfl⟩ := (adds here next).mp added
    have sizes := congrArg Array.size grown
    simp [Draft.ofListing, labelsFrom_append, labelsFrom_cons _ _ other, labelsFrom] at sizes

/-- The first entry under a full name is the one of the label that has it. -/
theorem findIdx?_labelsFrom {listed before after : List Listed} {name scope' name' : String}
    (proper : ∀ entry ∈ listed, entry.2.Proper (0 ≤ ·)) (fine : firstFault [] listed = none)
    (same : listed = before ++ (scope, .label name) :: after) (valid : IsName name') :
    (labelsFrom programStart listed).findIdx? (fun entry => entry.1 == qualify scope' name') =
        some (labelsFrom programStart before).length ↔
      scope = scope' ∧ name = name' := by
  have here : (scope, Statement.label name) ∈ listed := by simp [same]
  have absent := label_not_mem_of_fine fine same
  rw [same, labelsFrom_append, labelsFrom_cons_label, List.findIdx?_eq_some_iff_getElem]
  constructor
  · rintro ⟨_, found, _⟩
    rw [List.getElem_append_right (Nat.le_refl _)] at found
    simp only [Nat.sub_self, List.getElem_cons_zero, beq_iff_eq] at found
    exact qualify_inj (proper _ here).isName valid found
  · rintro ⟨rfl, rfl⟩
    refine ⟨by simp, ?_, ?_⟩
    · rw [List.getElem_append_right (Nat.le_refl _)]
      simp
    · intro j earlier found
      rw [List.getElem_append_left earlier, beq_iff_eq] at found
      obtain ⟨front, otherScope, otherName, back, cut, entry⟩ :=
        mem_labelsFrom (List.getElem_mem earlier)
      rw [entry] at found
      have member : (otherScope, Statement.label otherName) ∈ before := by simp [cut]
      have listed : (otherScope, Statement.label otherName) ∈ listed := by
        rw [same]
        exact List.mem_append_left _ member
      obtain ⟨rfl, rfl⟩ := qualify_inj (proper _ listed).isName valid found
      exact absent member

/-- A reference resolves to the label that it means, and to no other. -/
theorem resolves_iff (drafted : draft sources = .ok first) {reference label : Place}
    (stands : StandsAt sources reference scope statement) {target : Reference}
    (among : target ∈ statement.references) :
    Resolves sources reference label ↔
      StandsAt sources label (target.meaning scope).1 (.label (target.meaning scope).2) := by
  have proper := listing_proper sources
  have fine := (exists_draft_iff.mp ⟨first, drafted⟩).2
  have valid := (stands.proper.named target among).meaning scope
  have table : first.labels = (labelsFrom programStart (listing sources)).toArray := by
    rw [eq_ofListing drafted]
    rfl
  constructor
  · rintro ⟨again, name, number, draftedAgain, links, enters, found⟩
    cases drafted.symm.trans draftedAgain
    obtain ⟨labelScope, labelName, labelStands⟩ := exists_label_of_entersAt drafted enters
    obtain ⟨front, back, cut, _, numbers⟩ := labelStands.entersAt_iff drafted
    rw [(stands.linksAt_iff drafted among).mp links, (numbers number).mp enters, table,
      List.findIdx?_toArray, Reference.fullName, findIdx?_labelsFrom proper fine cut valid] at found
    obtain ⟨rfl, rfl⟩ := found
    exact labelStands
  · intro labelStands
    obtain ⟨front, back, cut, _, numbers⟩ := labelStands.entersAt_iff drafted
    refine ⟨first, target.fullName scope, _, drafted, (stands.linksAt_iff drafted among).mpr rfl,
      (numbers _).mpr rfl, ?_⟩
    rw [table, List.findIdx?_toArray, Reference.fullName, findIdx?_labelsFrom proper fine cut valid]
    exact ⟨rfl, rfl⟩

/-- Under the name of a reference the first pass finds the address at which the label stands that it
resolves to. -/
theorem Resolves.find?_eq {reference label : Place} (resolves : Resolves sources reference label)
    (drafted : draft sources = .ok first) (stands : StandsAt sources reference scope statement)
    {target : Reference} (among : target ∈ statement.references) :
    ∃ here, draftAt sources label = .ok here ∧
      LinksAt sources reference (target.fullName scope) ∧
      first.find? (target.fullName scope) = some here.address := by
  have labelStands := (resolves_iff drafted stands among).mp resolves
  obtain ⟨before, after, same, reached, _⟩ := labelStands.entersAt_iff drafted
  have fine := (exists_draft_iff.mp ⟨first, drafted⟩).2
  have proper := listing_proper sources
  rw [same] at proper
  refine ⟨_, reached, (stands.linksAt_iff drafted among).mpr rfl, ?_⟩
  rw [eq_ofListing drafted, Draft.find?_ofListing]
  exact addressOf?_label (fun entry member => proper entry (List.mem_append_left _ member))
    labelStands.isName (label_not_mem_of_fine fine same) same

/-- In an assembled program the word of a reference is filled in with the address that the first
pass has found for its label. -/
theorem StandsAt.filledAt (stands : StandsAt sources place scope statement)
    (drafted : draft sources = .ok first) {target : Reference}
    (among : target ∈ statement.references) {address : Nat}
    (known : first.find? (target.fullName scope) = some address) {program : List UInt8}
    (assembled : assemble sources = .ok program) :
    FilledAt sources place (target.fullName scope) address program := by
  obtain ⟨readable, fine⟩ := exists_draft_iff.mp ⟨first, drafted⟩
  have proper := listing_proper sources
  obtain ⟨before, after, same, adds⟩ := stands.addsAt_iff drafted
  have properBefore : ∀ entry ∈ before, entry.2.Proper (0 ≤ ·) := fun entry member =>
    proper entry (same ▸ List.mem_append_left _ member)
  have small : statement.base < 2 ^ 16 :=
    base_lt proper fine (scope, statement) (same ▸ by simp)
  have left := stands.proper.target?_eq_some.mpr among
  have piece := Statement.piece?_of_target? left scope
  rw [eq_ofListing drafted, Draft.find?_ofListing] at known
  rw [assemble_eq readable] at assembled
  obtain ⟨_, rfl⟩ := Outcome.checked_eq_ok.mp assembled
  have linked : statement.linked (listing sources) scope =
      bigEndian (statement.base ||| (address &&& statement.mask)) := by
    simp only [Statement.linked, left, known, Option.getD_some]
  have word : (Draft.ofListing scope (listing sources)).linkPiece
      (.link statement.base statement.mask (target.fullName scope)) = _ :=
    Draft.linkPiece_link small statement.mask_lt _
  simp only [Draft.linkPiece, Draft.find?_ofListing, known] at word
  refine ⟨_, _, statement.base, statement.mask, (adds _ _).mpr ⟨rfl, rfl⟩, ?_, word.trans ?_⟩
  · simp [Draft.ofListing, piece]
  · let bytes (entry : Listed) := entry.2.linked (listing sources) entry.1
    have size : (Draft.ofListing scope before).size = (before.flatMap bytes).length :=
      (linked_length properBefore).symm
    have cut : linkedBytes (listing sources) =
        (before ++ (scope, statement) :: after).flatMap bytes :=
      congrArg (List.flatMap bytes) same
    rw [cut, List.flatMap_append, List.flatMap_cons, size, List.drop_left,
      show bytes (scope, statement) = _ from linked]
    rfl

/-! ## Other modules -/

/-- Two lists have the same sources of a module, at the same places. -/
def SameIn (scope : String) (sources changed : List SourceModule) : Prop :=
  ∀ (i : Nat) (source : SourceModule), source.name = scope →
    (sources[i]? = some source ↔ changed[i]? = some source)

theorem sameIn_append {others : List SourceModule}
    (apart : ∀ other ∈ others, other.name ≠ scope) (sources : List SourceModule) :
    SameIn scope sources (sources ++ others) := by
  intro i source named
  by_cases inside : i < sources.length
  · rw [List.getElem?_append_left inside]
  · rw [List.getElem?_append_right (Nat.le_of_not_lt inside),
      List.getElem?_eq_none (Nat.le_of_not_lt inside)]
    refine ⟨nofun, fun behind => ?_⟩
    exact absurd named (apart source (List.mem_of_getElem? behind))

theorem SameIn.standsAt_iff {changed : List SourceModule} (same : SameIn scope sources changed) :
    StandsAt changed place scope statement ↔ StandsAt sources place scope statement := by
  constructor
  · rintro ⟨source, statements, here, named, rest⟩
    exact ⟨source, statements, (same _ _ named).mpr here, named, rest⟩
  · rintro ⟨source, statements, here, named, rest⟩
    exact ⟨source, statements, (same _ _ named).mp here, named, rest⟩

theorem StandsAt.append (stands : StandsAt sources place scope statement)
    (others : List SourceModule) : StandsAt (sources ++ others) place scope statement := by
  obtain ⟨source, statements, here, rest⟩ := stands
  obtain ⟨inside, _⟩ := List.getElem?_eq_some_iff.mp here
  exact ⟨source, statements, (List.getElem?_append_left inside).trans here, rest⟩

/-- What a reference resolves to depends on nothing but the sources of the module that it means. -/
theorem resolves_congr {changed : List SourceModule} {second : Draft}
    (drafted : draft sources = .ok first) (draftedAgain : draft changed = .ok second)
    {reference again label : Place} {statement' : Statement Int} {target : Reference}
    (stands : StandsAt sources reference scope statement)
    (among : target ∈ statement.references)
    (standsAgain : StandsAt changed again scope statement')
    (amongAgain : target ∈ statement'.references)
    (same : SameIn (target.meaning scope).1 sources changed) :
    Resolves changed again label ↔ Resolves sources reference label := by
  rw [resolves_iff draftedAgain standsAgain amongAgain, resolves_iff drafted stands among,
    same.standsAt_iff]

/-- Statements of other modules are at fault on their own or not at all. -/
theorem firstFault_apart {front listed : List Listed}
    (apart : ∀ entry ∈ front, ∀ other ∈ listed, entry.1 ≠ other.1) (earlier : List Listed) :
    firstFault (front ++ earlier) listed = firstFault earlier listed := by
  induction listed generalizing earlier with
  | nil => rfl
  | cons entry rest ih =>
    have here : faultAfter (front ++ earlier) entry.1 entry.2 =
        faultAfter earlier entry.1 entry.2 := by
      obtain ⟨scope, statement⟩ := entry
      cases statement with
      | label name =>
        have absent : (scope, Statement.label name) ∉ front := fun member =>
          apart _ member _ (List.mem_cons_self ..) rfl
        simp only [faultAfter, List.mem_append, absent, false_or]
      | word operand => cases operand <;> rfl
      | _ => rfl
    have later := ih (fun other member => fun last among =>
      apart other member last (List.mem_cons_of_mem _ among)) (earlier ++ [entry])
    rw [firstFault, firstFault, here, List.append_assoc, later]

theorem exists_source_of_mem_listing {entry : Listed} (member : entry ∈ listing sources) :
    ∃ source ∈ sources, source.name = entry.1 := by
  obtain ⟨source, here, listed⟩ := List.mem_flatMap.mp member
  obtain ⟨statement, _, rfl⟩ := List.mem_map.mp listed
  exact ⟨source, here, rfl⟩

/-- Sources of other modules go through behind some sources if they do alone. -/
theorem exists_draft_append {others : List SourceModule}
    (apart : ∀ source ∈ sources, ∀ other ∈ others, source.name ≠ other.name) :
    (∃ second, draft (sources ++ others) = .ok second) ↔
      (∃ first, draft sources = .ok first) ∧ ∃ alone, draft others = .ok alone := by
  have listedApart : ∀ entry ∈ listing sources, ∀ other ∈ listing others, entry.1 ≠ other.1 := by
    intro entry member other otherMember
    obtain ⟨source, here, named⟩ := exists_source_of_mem_listing member
    obtain ⟨otherSource, there, otherNamed⟩ := exists_source_of_mem_listing otherMember
    rw [← named, ← otherNamed]
    exact apart source here otherSource there
  have later := firstFault_apart listedApart []
  rw [List.append_nil] at later
  rw [exists_draft_iff, exists_draft_iff, exists_draft_iff, listing_append, firstFault_append,
    Option.or_eq_none_iff, List.nil_append, later]
  simp only [List.mem_append, or_imp, forall_and]
  tauto

/-! ## The whole law -/

/-- Modules are namespaces, whatever they are called. Full names tell modules and labels apart. Of
the labels of some sources that go through the first pass, a reference without a module resolves to
the one of its name in its own module, and a reference with a module to the one of its name in that
module; if the sources can be assembled, its word in the program is filled in with the address of
that label. What a reference resolves to stays the same when sources of other modules than the one
that it means are added behind or changed, and sources of new modules can be added if they go
through alone. -/
theorem modules_are_namespaces :
    (∀ scope scope' name name', IsName name → IsName name' →
      qualify scope name = qualify scope' name' → scope = scope' ∧ name = name') ∧
    ∀ sources first, draft sources = .ok first →
      (∀ reference scope statement, StandsAt sources reference scope statement →
        (∀ target ∈ statement.references,
          (∃ name, target = ⟨[name]⟩) ∨ ∃ owner name, target = ⟨[owner, name]⟩) ∧
        (∀ label labelScope labelName, StandsAt sources label labelScope (.label labelName) →
          (∀ name, ⟨[name]⟩ ∈ statement.references →
            (Resolves sources reference label ↔ labelScope = scope ∧ labelName = name)) ∧
          ∀ owner name, ⟨[owner, name]⟩ ∈ statement.references →
            (Resolves sources reference label ↔ labelScope = owner ∧ labelName = name)) ∧
        ∀ target ∈ statement.references,
          (∀ label, Resolves sources reference label →
            ∃ here, draftAt sources label = .ok here ∧
              LinksAt sources reference (target.fullName scope) ∧
              first.find? (target.fullName scope) = some here.address ∧
              ∀ program, assemble sources = .ok program →
                FilledAt sources reference (target.fullName scope) here.address program) ∧
          (∀ others second, (∀ other ∈ others, other.name ≠ (target.meaning scope).1) →
            draft (sources ++ others) = .ok second →
            ∀ label, Resolves (sources ++ others) reference label ↔
              Resolves sources reference label) ∧
          ∀ changed second, SameIn (target.meaning scope).1 sources changed →
            draft changed = .ok second →
            ∀ again statement', StandsAt changed again scope statement' →
              target ∈ statement'.references →
              ∀ label, Resolves changed again label ↔ Resolves sources reference label) ∧
      ∀ others, (∀ source ∈ sources, ∀ other ∈ others, source.name ≠ other.name) →
        ((∃ second, draft (sources ++ others) = .ok second) ↔
          ∃ alone, draft others = .ok alone) := by
  refine ⟨fun _ _ _ _ => qualify_inj, fun sources first drafted => ⟨?_, ?_⟩⟩
  · intro reference scope statement stands
    refine ⟨?_, ?_, ?_⟩
    · intro target among
      cases stands.proper.named target among with
      | near => exact .inl ⟨_, rfl⟩
      | far => exact .inr ⟨_, _, rfl⟩
    · intro label labelScope labelName labelStands
      exact ⟨fun name among => (resolves_iff drafted stands among).trans labelStands.label_iff,
        fun owner name among => (resolves_iff drafted stands among).trans labelStands.label_iff⟩
    · intro target among
      refine ⟨fun label resolves => ?_, ?_, ?_⟩
      · obtain ⟨here, reached, links, found⟩ := resolves.find?_eq drafted stands among
        exact ⟨here, reached, links, found, fun program assembled =>
          stands.filledAt drafted among found assembled⟩
      · intro others second apart draftedAgain label
        exact resolves_congr drafted draftedAgain stands among (stands.append others) among
          (sameIn_append apart sources)
      · intro changed second same draftedAgain again statement' standsAgain amongAgain label
        exact resolves_congr drafted draftedAgain stands among standsAgain amongAgain same
  · intro others apart
    rw [exists_draft_append apart]
    exact and_iff_right ⟨first, drafted⟩

/-- Two modules, one of them with colons in its name, that use the same name for a label. -/
def twoStarts : List SourceModule :=
  [⟨"lib::start", "start: jp &start"⟩, ⟨"lib", "start: ret\n DW &lib::start"⟩]

def thirdStart : SourceModule := ⟨"main", "start: jp &lib::start"⟩

theorem twoStarts_are_namespaces :
    qualify "lib::start" "start" ≠ qualify "lib" "start" ∧
      (∃ first, draft twoStarts = .ok first) ∧
      Resolves twoStarts ⟨0, 1⟩ ⟨0, 0⟩ ∧ ¬Resolves twoStarts ⟨0, 1⟩ ⟨1, 0⟩ ∧
      Resolves twoStarts ⟨1, 2⟩ ⟨1, 0⟩ ∧ ¬Resolves twoStarts ⟨1, 2⟩ ⟨0, 0⟩ ∧
      Resolves (twoStarts ++ [thirdStart]) ⟨0, 1⟩ ⟨0, 0⟩ ∧
      ∃ here, draftAt twoStarts ⟨1, 0⟩ = .ok here ∧ here.address = 0x202 ∧
        FilledAt twoStarts ⟨1, 2⟩ "lib::start" here.address
          [0x12, 0x00, 0x00, 0xEE, 0x02, 0x02] := by
  have accepted {sources : List SourceModule}
      (readable : ∀ source ∈ sources, (readWithin source.text).isSome)
      (fine : firstFault [] (listing sources) = none) : ∃ first, draft sources = .ok first :=
    exists_draft_iff.mpr ⟨readable_of_readWithin readable, fine⟩
  obtain ⟨first, drafted⟩ : ∃ first, draft twoStarts = .ok first := by
    apply accepted (by decide +kernel)
    simp only [listing, read?_eq]
    decide +kernel
  obtain ⟨alone, draftedAlone⟩ : ∃ alone, draft [thirdStart] = .ok alone := by
    apply accepted (by decide +kernel)
    simp only [listing, read?_eq]
    decide +kernel
  have front : SourceModule.statements ⟨"lib::start", "start: jp &start"⟩ =
      .ok [.label "start", .instruction .jp [.reference ⟨["start"]⟩]] := by
    rw [SourceModule.statements, read?_eq]
    decide +kernel
  have back : SourceModule.statements ⟨"lib", "start: ret\n DW &lib::start"⟩ =
      .ok [.label "start", .instruction .ret [], .word (.reference ⟨["lib", "start"]⟩)] := by
    rw [SourceModule.statements, read?_eq]
    decide +kernel
  have frontLabel : StandsAt twoStarts ⟨0, 0⟩ "lib::start" (.label "start") :=
    ⟨_, _, rfl, rfl, front, rfl⟩
  have backLabel : StandsAt twoStarts ⟨1, 0⟩ "lib" (.label "start") :=
    ⟨_, _, rfl, rfl, back, rfl⟩
  have isName : IsName "start" := backLabel.isName
  obtain ⟨apart, law⟩ := modules_are_namespaces
  obtain ⟨resolution, added⟩ := law twoStarts first drafted
  obtain ⟨_, near, nearKept⟩ := resolution ⟨0, 1⟩ _ _ ⟨_, _, rfl, rfl, front, rfl⟩
  obtain ⟨_, far, farFilled⟩ := resolution ⟨1, 2⟩ _ _ ⟨_, _, rfl, rfl, back, rfl⟩
  have own : ⟨["start"]⟩ ∈ Statement.references
      (.instruction .jp [.reference ⟨["start"]⟩]) := List.mem_cons_self ..
  have named : ⟨["lib", "start"]⟩ ∈ Statement.references
      (.word (.reference ⟨["lib", "start"]⟩)) := List.mem_cons_self ..
  have ownLabel : Resolves twoStarts ⟨0, 1⟩ ⟨0, 0⟩ :=
    ((near _ _ _ frontLabel).1 _ own).mpr ⟨rfl, rfl⟩
  obtain ⟨second, draftedBoth⟩ := (added [thirdStart] (by decide)).mpr ⟨alone, draftedAlone⟩
  have farLabel : Resolves twoStarts ⟨1, 2⟩ ⟨1, 0⟩ :=
    ((far _ _ _ backLabel).2 _ _ named).mpr ⟨rfl, rfl⟩
  refine ⟨?_, ⟨first, drafted⟩, ownLabel, ?_, farLabel, ?_, ?_, ?_⟩
  · intro same
    have wrong := (apart _ _ _ _ isName isName same).1
    contradiction
  · intro resolves
    have wrong := (((near _ _ _ backLabel).1 _ own).mp resolves).1
    contradiction
  · intro resolves
    have wrong := (((far _ _ _ frontLabel).2 _ _ named).mp resolves).1
    contradiction
  · exact ((nearKept _ own).2.1 [thirdStart] second (by decide) draftedBoth _).mpr ownLabel
  · have assembled : assemble twoStarts = .ok [0x12, 0x00, 0x00, 0xEE, 0x02, 0x02] := by
      rw [assemble_eq (readable_of_readWithin (by decide +kernel))]
      simp only [listing, read?_eq]
      decide +kernel
    obtain ⟨here, reached, _, found, filled⟩ := (farFilled _ named).1 _ farLabel
    have address : addressOf? (listing twoStarts) "lib::start" = some 0x202 := by
      simp only [listing, read?_eq]
      decide +kernel
    rw [eq_ofListing drafted, Draft.find?_ofListing] at found
    exact ⟨here, reached, Option.some.inj (found.symm.trans address), filled _ assembled⟩

end Chip8.Assembly
