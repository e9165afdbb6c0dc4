import Chip8.Proofs.Assembly.Joining

/-! # Sources as rows of stretches

Reading cuts a source into stretches: the span of a comment or of a statement, and the blanks in
front of it. There is a stretch wherever anything but blanks is left, whatever the text is, because
the rest of a line is an unknown statement if nothing else starts there. So every source is passed
to its end (`source_is_passed`).
-/

namespace Chip8.Assembly

namespace Cursor

variable {cursor behind : Cursor}

/-! ## The end -/

/-- Nothing is read next exactly where nothing but blanks is left. -/
theorem next?_eq_none_iff : cursor.next? = none ↔ Blanks cursor.rest := by
  obtain ⟨gap, blank, cut⟩ := cursor.exists_gap
  constructor
  · intro stop
    rw [skipSpace_of_next?_eq_none stop, List.append_nil] at cut
    rw [cut]
    exact blank
  · intro blanks
    cases found : cursor.next? with
    | none => rfl
    | some reading =>
      obtain ⟨span, shape, read⟩ := next?_reads found
      obtain ⟨c, rest, same⟩ := List.exists_cons_of_ne_nil read.ne_nil
      have visible : isSpace c = false := by simpa [shape, same] using cursor.skipSpace_stops
      have member : c ∈ cursor.rest := by simp [cut, shape, same]
      rw [blanks c member] at visible
      contradiction

end Cursor

/-! ## Stretches -/

/-- The span of a comment or of a statement, and the blanks in front of it. -/
structure Stretch where
  blanks : List Char
  span : List Char
  /-- The statement that was read from the span, or nothing for a comment. -/
  content : Option (Statement (List Char))

def Stretch.text (stretch : Stretch) : List Char := stretch.blanks ++ stretch.span

/-- Reading from a place on passes these stretches, one after the other, and stops in front of the
last blanks. -/
inductive Cursor.Passes : Cursor → List Stretch → List Char → Prop where
  | stop {cursor : Cursor} : cursor.next? = none → Blanks cursor.rest →
      Passes cursor [] cursor.rest
  | read {cursor behind : Cursor} {stretch : Stretch} {stretches : List Stretch}
      {last : List Char} : cursor.next? = some (stretch.content, behind) →
      cursor.rest = stretch.text ++ behind.rest → Blanks stretch.blanks →
      Extent behind.rest stretch.content stretch.span → Passes behind stretches last →
      Passes cursor (stretch :: stretches) last

namespace Cursor.Passes

variable {cursor : Cursor} {stretches : List Stretch} {last : List Char}

/-- The stretches and the last blanks are the whole text. -/
theorem text (passes : cursor.Passes stretches last) :
    cursor.rest = stretches.flatMap Stretch.text ++ last := by
  induction passes with
  | stop => rfl
  | read _ cut _ _ _ ih => rw [cut, ih, List.flatMap_cons, List.append_assoc]

theorem blanks_last (passes : cursor.Passes stretches last) : Blanks last := by
  induction passes with
  | stop _ blank => exact blank
  | read _ _ _ _ _ ih => exact ih

/-- The statements of the text are those of its stretches. -/
theorem statements (passes : cursor.Passes stretches last) :
    cursor.statements = stretches.filterMap Stretch.content := by
  induction passes with
  | stop stop _ => exact statements_of_next?_eq_none stop
  | @read _ _ stretch _ _ found _ _ _ _ ih =>
    rw [statements_of_next? found, ih]
    cases content : stretch.content with
    | none => rw [List.filterMap_cons_none content, Option.toList_none, List.nil_append]
    | some statement =>
      rw [List.filterMap_cons_some content, Option.toList_some, List.singleton_append]

/-- Each stretch has its blanks and its span in front of all that is left. -/
theorem shape {front back : List Stretch} {stretch : Stretch}
    (passes : cursor.Passes (front ++ stretch :: back) last) :
    Blanks stretch.blanks ∧
      Extent (back.flatMap Stretch.text ++ last) stretch.content stretch.span := by
  induction front generalizing cursor with
  | nil =>
    cases passes with
    | read _ _ blank span later =>
      rw [later.text] at span
      exact ⟨blank, span⟩
  | cons first front ih =>
    cases passes with
    | read _ _ _ _ later => exact ih later

end Cursor.Passes

/-- From every place reading passes to the end. -/
theorem Cursor.exists_passes (cursor : Cursor) :
    ∃ stretches last, cursor.Passes stretches last := by
  fun_induction Cursor.statements cursor with
  | case1 cursor stop => exact ⟨[], cursor.rest, .stop stop (next?_eq_none_iff.mp stop)⟩
  | case2 cursor content behind found ih =>
    obtain ⟨stretches, last, later⟩ := ih
    obtain ⟨span, shape, read⟩ := next?_reads found
    obtain ⟨gap, blank, cut⟩ := cursor.exists_gap
    rw [shape, ← List.append_assoc] at cut
    exact ⟨⟨gap, span, content⟩ :: stretches, last, .read found cut blank read later⟩

/-! ## Sources -/

/-- Every source is read to its end. Reading passes one stretch after another, each with at least
one character behind its blanks, and stops only where nothing but blanks is left; so the source, its
tabs expanded, consists of the stretches and the last blanks, and its statements are those of the
stretches. Unknown statements are the rests of lines, and they are not empty. The statements have
values unless one of their decimal numbers is too long. -/
theorem source_is_passed (source : String) :
    ∃ stretches last,
      (Cursor.ofText (expandTabs 0 source.toList)).Passes stretches last ∧
      expandTabs 0 source.toList = stretches.flatMap Stretch.text ++ last ∧
      (∀ c ∈ last, isSpace c) ∧
      readStatements source = stretches.filterMap Stretch.content ∧
      (∀ front stretch back, stretches = front ++ stretch :: back →
        (∀ c ∈ stretch.blanks, isSpace c) ∧ stretch.span ≠ [] ∧
        Extent (back.flatMap Stretch.text ++ last) stretch.content stretch.span ∧
        ∀ text, stretch.content = some (.unknown text) →
          stretch.span = text.toList ∧ '\n' ∉ text.toList ∧
          ((back.flatMap Stretch.text ++ last) = [] ∨
            (back.flatMap Stretch.text ++ last).head? = some '\n')) ∧
      ((∀ statement ∈ readStatements source, ∀ text ∈ statement.numbers, ¬IsLongDecimal text) →
        ∃ statements, read? source = some statements) := by
  obtain ⟨stretches, last, passes⟩ :=
    (Cursor.ofText (expandTabs 0 source.toList)).exists_passes
  refine ⟨stretches, last, passes, passes.text, passes.blanks_last, passes.statements, ?_,
    exists_read_of_short⟩
  rintro front ⟨blanks, span, content⟩ back rfl
  obtain ⟨blank, shape⟩ := passes.shape
  refine ⟨blank, shape.ne_nil, shape, ?_⟩
  rintro text rfl
  cases shape with
  | unknown _ line => exact ⟨rfl, line.oneLine, line.stops⟩

/-- A source whose first lines are almost statements, with a no-break space in front of another and
a carriage return between the last two. -/
def oddSource : String := "0xG // 1\nld v0,\n\u00a0cls\n\tret\rcls // end"

theorem oddSource_is_passed :
    readStatements oddSource =
      [.unknown "0xG // 1", .unknown "ld v0,", .unknown "\u00a0cls", .instruction .ret [],
        .instruction .cls []] ∧
      ∃ statements, read? oddSource = some statements := by
  have statements : readStatements oddSource =
      [.unknown "0xG // 1", .unknown "ld v0,", .unknown "\u00a0cls", .instruction .ret [],
        .instruction .cls []] := by
    simp only [readStatements, Cursor.statements_eq (Nat.le_refl _)]
    decide +kernel
  obtain ⟨_, _, _, _, _, _, _, readable⟩ := source_is_passed oddSource
  refine ⟨statements, readable ?_⟩
  rw [statements]
  decide +kernel

end Chip8.Assembly
