import Chip8.Assembly.Program

/-! # Reading to the end

Reading stops only where nothing but blanks is left (`Cursor.final_skipSpace`). A source has no more
statements and comments than characters, so reading at most that many of them reads all
(`read?_eq`); that form of the reader recurses on the bound and can be evaluated.
-/

namespace Chip8.Assembly

/-! ## The end -/

namespace Cursor

/-- The place at which reading stops. -/
def final (cursor : Cursor) : Cursor :=
  match _found : cursor.next? with
  | none => cursor
  | some (_, behind) => behind.final
termination_by cursor.remaining
decreasing_by exact Cursor.next?_remaining_lt _found

/-- Nothing but blanks is left where reading stops. -/
theorem final_skipSpace (cursor : Cursor) : cursor.final.skipSpace.rest = [] := by
  fun_induction final cursor with
  | case1 cursor stop =>
    simp only [next?] at stop
    split at stop
    · contradiction
    · simp only [Option.map_eq_none_iff, statement?, Option.or_eq_none_iff] at stop
      have nothing := stop.2.2.2.2
      rw [unknown?, skipSpace_skipSpace] at nothing
      cases shape : cursor.skipSpace.rest with
      | nil => rfl
      | cons c rest => simp [shape] at nothing
  | case2 cursor statement behind found ih => exact ih

end Cursor

/-! ## A bound -/

/-- The statements from a place on, as far as a given number of statements and comments goes. -/
def Cursor.statementsWithin : Nat → Cursor → List (Statement (List Char))
  | 0, _ => []
  | bound + 1, cursor =>
    match cursor.next? with
    | none => []
    | some (statement, behind) => statement.toList ++ behind.statementsWithin bound

theorem Cursor.statements_eq {bound : Nat} {cursor : Cursor} (enough : cursor.remaining ≤ bound) :
    cursor.statements = cursor.statementsWithin bound := by
  induction bound generalizing cursor with
  | zero =>
    rw [Cursor.statements]
    split
    · rfl
    · rename_i found
      have := Cursor.next?_remaining_lt found
      omega
  | succ bound ih =>
    rw [Cursor.statements]
    split
    · rename_i found
      rw [statementsWithin, found]
    · rename_i found
      have := Cursor.next?_remaining_lt found
      rw [statementsWithin, found]
      dsimp only
      rw [ih (by omega)]

/-- The statements of a source, as many as it has characters at most. -/
def readWithin (text : String) : Option (List (Statement Int)) :=
  let start := Cursor.ofText (expandTabs 0 text.toList)
  (start.statementsWithin start.remaining).mapM (Statement.mapNumbers? numeralValue?)

theorem read?_eq (text : String) : read? text = readWithin text := by
  rw [read?, readStatements, Cursor.statements_eq (Nat.le_refl _)]
  rfl

/-- Sources that can be read with the bound can be read. -/
theorem readable_of_readWithin {sources : List SourceModule}
    (read : ∀ source ∈ sources, (readWithin source.text).isSome) :
    ∀ source ∈ sources, ∃ statements, source.statements = .ok statements := by
  intro source member
  obtain ⟨statements, here⟩ := Option.isSome_iff_exists.mp (read source member)
  refine ⟨statements, ?_⟩
  rw [SourceModule.statements, read?_eq, here]

end Chip8.Assembly
