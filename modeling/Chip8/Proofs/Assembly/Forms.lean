import Chip8.Proofs.Assembly.Operands

/-! # Reading instructions that are written down

Forms share mnemonics, and one row of slots can start like another. Still only the form that is
written down reads up to the end of its text: any other form either fails or stops earlier, so the
form that reads furthest is the right one (`Cursor.instruction?_append`).
-/

namespace Chip8.Assembly

/-! ## The table of forms -/

theorem Form.mnemonic_solid (form : Form) : Solid form.mnemonic.toList := by
  apply solid_of_head?
  cases form <;> decide

theorem Form.mnemonic_isName (form : Form) : IsName form.mnemonic := by
  have all : form.mnemonic.toList.all isNameChar := by cases form <;> decide
  have start : form.mnemonic.toList.head?.any isNameStart := by cases form <;> decide
  cases shape : form.mnemonic.toList with
  | nil => rw [shape] at start; contradiction
  | cons first rest =>
    rw [shape] at start
    exact ⟨⟨first, rest, shape, start⟩, List.all_eq_true.mp all⟩

/-- Two forms with one mnemonic have slots, and neither row of slots reads up to the end of the
other. -/
theorem Form.stopsEarly {form other : Form} (same : other.mnemonic = form.mnemonic)
    (different : other ≠ form) :
    form.slots ≠ [] ∧ other.slots ≠ [] ∧ Assembly.stopsEarly form.slots other.slots = true := by
  have checked : ∀ form ∈ Form.all, ∀ other ∈ Form.all, other.mnemonic = form.mnemonic →
      other ≠ form →
      form.slots ≠ [] ∧ other.slots ≠ [] ∧ Assembly.stopsEarly form.slots other.slots = true := by
    decide +kernel
  exact checked form form.mem_all other other.mem_all same different

/-! ## What follows a mnemonic -/

theorem joinsKeyword_of_isNameChar {c : Char} (char : isNameChar c) : joinsKeyword c := by
  unfold joinsKeyword
  unfold isNameChar at char
  rw [char, Bool.true_or]

/-- Behind a gap a delimited text may start with anything but a colon. -/
theorem delimited_of_gap {gap text : List Char} (blanks : Blanks gap) (filled : gap ≠ [])
    (noColon : firstVisible text ≠ some ':') : Delimited (gap ++ text) := by
  constructor
  · cases gap with
    | nil => contradiction
    | cons blank gap =>
      intro c first
      cases first
      exact mem_delimiters_of_isSpace (blanks _ (List.mem_cons_self ..))
  · rw [firstVisible_append blanks]
    exact noColon

theorem SlotText.noColon {slot : Slot} {operand : Option (Operand Literal)} {text : List Char}
    (spelled : SlotText slot operand text) (rest : List Char) :
    firstVisible (text ++ rest) ≠ some ':' := by
  obtain ⟨c, head, firsts⟩ := spelled.head
  rw [spelled.solid.firstVisible, head]
  intro same
  cases same
  revert firsts
  cases spelled with
  | @fixed text known =>
    have checked : ∀ text ∈ fixedTexts, ':' ∉ (Slot.fixed text).firsts := by decide
    exact checked text known
  | _ => decide

theorem FormText.delimited {slots : List Slot} {operands : List (Operand Literal)}
    {text rest : List Char} (spelled : FormText slots operands text) (delimited : Delimited rest) :
    Delimited (text ++ rest) := by
  cases spelled with
  | plain => exact delimited
  | operands blanks filled operand others =>
    rw [List.append_assoc, List.append_assoc]
    exact delimited_of_gap blanks filled (operand.noColon _)

/-- A gap that is not empty separates a keyword from what stands in front of it. -/
theorem Blanks.noJoin_of_ne_nil {gap : List Char} (blanks : Blanks gap) (filled : gap ≠ [])
    (before : Char) : joinsKeyword (gap.getLastD before) = false := by
  cases gap with
  | nil => contradiction
  | cons c gap =>
    rw [List.getLastD_cons]
    exact blanks.tail.noJoin (joinsKeyword_eq_false_of_isSpace (blanks c (List.mem_cons_self ..)))

namespace Cursor

variable {before : Char} {text rest : List Char} {slots others : List Slot}
  {operands : List (Operand Literal)}

/-! ## Forms -/

theorem operands?_start (spelled : FormText slots operands text) (delimited : Delimited rest) :
    ∃ last, (⟨before, text ++ rest⟩ : Cursor).operands? true slots =
      some (operands.map (Operand.map Literal.text), ⟨last, rest⟩) := by
  cases spelled with
  | plain => exact ⟨before, rfl⟩
  | @operands slot slots operand operands gap here more blanks filled spelled further =>
    obtain ⟨middle, read⟩ : ∃ last, (⟨before, gap ++ (here ++ (more ++ rest))⟩ :
        Cursor).operand? slot = some (_, ⟨last, _⟩) :=
      operand?_append spelled blanks (further.delimited delimited)
        (blanks.noJoin_of_ne_nil filled before)
    obtain ⟨last, later⟩ : ∃ last, (⟨middle, more ++ rest⟩ : Cursor).operands? false slots =
        some (_, ⟨last, rest⟩) := operands?_append further delimited
    refine ⟨last, ?_⟩
    rw [List.append_assoc, List.append_assoc, operands?, separator?, if_pos rfl]
    simp only [Option.bind_eq_bind, Option.bind_some, read, later]
    cases operand <;> rfl

/-- A form that differs from what is written down stops in front of its end, if it reads
anything. -/
theorem operands?_start_other (spelled : FormText slots operands text) (filled : slots ≠ [])
    (finished : Finished rest) (othersFilled : others ≠ []) (known : ∀ slot ∈ others, slot.Known)
    (early : stopsEarly slots others) {read : List (Operand (List Char))} {behind : Cursor}
    (found : (⟨before, text ++ rest⟩ : Cursor).operands? true others = some (read, behind)) :
    rest.length < behind.remaining := by
  cases spelled with
  | plain => contradiction
  | @operands slot slots operand operands gap here more blanks gapFilled spelled further =>
    cases others with
    | nil => contradiction
    | cons other others =>
      rw [List.append_assoc, List.append_assoc, operands?, separator?, if_pos rfl] at found
      simp only [Option.bind_eq_bind, Option.bind_some, Option.bind_eq_some_iff, Prod.exists]
        at found
      obtain ⟨value, place, first, values, last, later, same⟩ := found
      cases same
      rw [stopsEarly, Bool.or_eq_true, Bool.and_eq_true] at early
      rcases early with apart | ⟨same, early⟩
      · have knownHere := known other (List.mem_cons_self ..)
        exact absurd first (operand?_apart spelled blanks knownHere apart _)
      · obtain rfl := beq_iff_eq.mp same
        obtain ⟨middle, expected⟩ : ∃ last, (⟨before, gap ++ (here ++ (more ++ rest))⟩ :
            Cursor).operand? slot = some (_, ⟨last, _⟩) :=
          operand?_append spelled blanks (further.delimited finished.toDelimited)
            (blanks.noJoin_of_ne_nil gapFilled before)
        rw [expected] at first
        cases first
        exact operands?_other further finished
          (fun slot member => known slot (List.mem_cons_of_mem _ member)) early later

/-- Where the mnemonic of a form stands, a form is read exactly if it has that mnemonic and its
operands can be read behind it. -/
theorem form?_mnemonic {form other : Form} (spelled : FormText form.slots operands text)
    (finished : Finished rest) (apart : joinsKeyword before = false) :
    ∃ middle, (⟨before, form.mnemonic.toList ++ (text ++ rest)⟩ : Cursor).form? other =
      if other.mnemonic = form.mnemonic then
        ((⟨middle, text ++ rest⟩ : Cursor).operands? true other.slots).map fun (operands, behind) =>
          (.instruction other operands, behind)
      else none := by
  have stops : (text ++ rest).head?.any joinsKeyword = false :=
    (spelled.delimited finished.toDelimited).stops (by decide)
  obtain ⟨middle, keyword⟩ : ∃ last, (⟨before, [] ++ (form.mnemonic.toList ++ (text ++ rest))⟩ :
      Cursor).keyword? form.mnemonic = some ⟨last, _⟩ :=
    keyword?_append .nil form.mnemonic_solid apart stops
  rw [List.nil_append] at keyword
  refine ⟨middle, ?_⟩
  by_cases same : other.mnemonic = form.mnemonic
  · rw [if_pos same, form?, same, keyword]
    simp only [Option.bind_eq_bind, Option.bind_some]
    cases (⟨middle, text ++ rest⟩ : Cursor).operands? true other.slots <;> rfl
  · rw [if_neg same, form?]
    cases found : (⟨before, form.mnemonic.toList ++ (text ++ rest)⟩ : Cursor).keyword?
        other.mnemonic with
    | none => rfl
    | some behind =>
      have joins (form : Form) : ∀ c ∈ form.mnemonic.toList, joinsKeyword c := fun c member =>
        joinsKeyword_of_isNameChar (form.mnemonic_isName.all c member)
      exact absurd (keyword?_unique form.mnemonic_solid (joins form) (joins other) stops found) same

/-! ## The reading that goes furthest -/

theorem furthest?_eq_none {α : Type} {readings : List (α × Cursor)}
    (nothing : furthest? readings = none) : readings = [] := by
  cases readings with
  | nil => rfl
  | cons first others =>
    rw [furthest?] at nothing
    split at nothing
    · contradiction
    · split at nothing <;> contradiction

/-- A reading is chosen if every other one leaves more of the text. -/
theorem furthest?_eq_some {α : Type} {readings : List (α × Cursor)} {reading : α × Cursor}
    (member : reading ∈ readings)
    (others : ∀ other ∈ readings, other = reading ∨ reading.2.remaining < other.2.remaining) :
    furthest? readings = some reading := by
  induction readings with
  | nil => contradiction
  | cons first rest ih =>
    have firstOther := others first (List.mem_cons_self ..)
    have restOthers : ∀ other ∈ rest, other = reading ∨ reading.2.remaining < other.2.remaining :=
      fun other later => others other (List.mem_cons_of_mem _ later)
    rw [furthest?]
    cases chosen : furthest? rest with
    | none =>
      rw [furthest?_eq_none chosen] at member
      rw [List.mem_singleton.mp member]
    | some other =>
      dsimp only
      by_cases later : reading ∈ rest
      · have same : other = reading := Option.some.inj (chosen.symm.trans (ih later restOthers))
        rw [same]
        rcases firstOther with same | less
        · rw [same, if_pos (Nat.le_refl _)]
        · rw [if_neg (Nat.not_le_of_lt less)]
      · have same : reading = first := (List.mem_cons.mp member).resolve_right later
        rcases restOthers other (furthest?_mem chosen) with again | less
        · exact absurd (again ▸ furthest?_mem chosen) later
        · rw [← same, if_pos (Nat.le_of_lt less)]

/-- An instruction that is written down is read. -/
theorem instruction?_append {form : Form} (spelled : FormText form.slots operands text)
    (finished : Finished rest) (apart : joinsKeyword before = false) :
    ∃ last, (⟨before, form.mnemonic.toList ++ (text ++ rest)⟩ : Cursor).instruction? =
      some (.instruction form (operands.map (Operand.map Literal.text)), ⟨last, rest⟩) := by
  obtain ⟨middle, read⟩ : ∃ middle,
      (⟨before, form.mnemonic.toList ++ (text ++ rest)⟩ : Cursor).form? form = _ :=
    form?_mnemonic spelled finished apart
  obtain ⟨last, own⟩ : ∃ last, (⟨middle, text ++ rest⟩ : Cursor).operands? true form.slots =
      some (_, ⟨last, rest⟩) := operands?_start spelled finished.toDelimited
  rw [if_pos rfl, own] at read
  refine ⟨last, furthest?_eq_some ?_ ?_⟩
  · exact List.mem_filterMap.mpr ⟨form, form.mem_all, read⟩
  · rintro ⟨statement, behind⟩ member
    obtain ⟨other, _, found⟩ := List.mem_filterMap.mp member
    by_cases same : other = form
    · rw [same, read] at found
      exact .inl (Option.some.inj found).symm
    · right
      obtain ⟨place, otherRead⟩ : ∃ middle,
          (⟨before, form.mnemonic.toList ++ (text ++ rest)⟩ : Cursor).form? other = _ :=
        form?_mnemonic spelled finished apart
      rw [otherRead] at found
      split at found
      · rename_i mnemonic
        obtain ⟨filled, otherFilled, early⟩ := Form.stopsEarly mnemonic same
        obtain ⟨⟨values, end_⟩, operandsRead, same⟩ := Option.map_eq_some_iff.mp found
        cases same
        exact operands?_start_other spelled filled finished otherFilled other.slots_known early
          operandsRead
      · contradiction

/-- Where another word stands no instruction is read. -/
theorem instruction?_eq_none {word : String} (valid : IsName word)
    (different : ∀ form : Form, form.mnemonic ≠ word)
    (stops : rest.head?.any joinsKeyword = false) :
    (⟨before, word.toList ++ rest⟩ : Cursor).instruction? = none := by
  apply Option.eq_none_iff_forall_ne_some.mpr
  intro reading found
  obtain ⟨form, _, read⟩ := List.mem_filterMap.mp (furthest?_mem found)
  simp only [form?, Option.bind_eq_bind, Option.bind_eq_some_iff] at read
  obtain ⟨place, keyword, _⟩ := read
  exact different form (keyword?_unique valid.solid
    (fun c member => joinsKeyword_of_isNameChar (valid.all c member))
    (fun c member => joinsKeyword_of_isNameChar (form.mnemonic_isName.all c member)) stops keyword)

end Cursor

end Chip8.Assembly
