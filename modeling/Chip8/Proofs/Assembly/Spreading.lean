import Chip8.Proofs.Assembly.Spelling

/-! # Spreading tabs

Before a source is read its tabs become spaces, as many as their columns ask for. Whatever the
columns, that changes blanks and comments only: a text still spells the same statements
(`ProgramText.spread`).
-/

namespace Chip8.Assembly

/-- One text is another with every tab replaced by some spaces, at least one. -/
inductive Spread : List Char → List Char → Prop where
  | nil : Spread [] []
  | tab {count : Nat} {text text' : List Char} : 0 < count → Spread text text' →
      Spread ('\t' :: text) (List.replicate count ' ' ++ text')
  | keep {c : Char} {text text' : List Char} : c ≠ '\t' → Spread text text' →
      Spread (c :: text) (c :: text')

theorem spread_expandTabs (column : Nat) (text : List Char) :
    Spread text (expandTabs column text) := by
  induction text generalizing column with
  | nil => exact .nil
  | cons c rest ih =>
    rw [expandTabs]
    split
    · rename_i tab
      subst tab
      exact .tab (by omega) (ih _)
    · rename_i other
      split
      · exact .keep other (ih _)
      · exact .keep other (ih _)

theorem Spread.of_append {front back text : List Char} (spread : Spread (front ++ back) text) :
    ∃ front' back', Spread front front' ∧ Spread back back' ∧ text = front' ++ back' := by
  induction front generalizing text with
  | nil => exact ⟨[], text, .nil, spread, rfl⟩
  | cons c front ih =>
    rw [List.cons_append] at spread
    cases spread with
    | tab positive rest =>
      obtain ⟨front', back', first, second, rfl⟩ := ih rest
      exact ⟨_, back', .tab positive first, second, (List.append_assoc ..).symm⟩
    | keep other rest =>
      obtain ⟨front', back', first, second, rfl⟩ := ih rest
      exact ⟨_, back', .keep other first, second, rfl⟩

theorem Spread.of_cons {c : Char} {rest text : List Char} (other : c ≠ '\t')
    (spread : Spread (c :: rest) text) : ∃ rest', Spread rest rest' ∧ text = c :: rest' := by
  cases spread with
  | tab => contradiction
  | keep _ rest => exact ⟨_, rest, rfl⟩

/-- A text without tabs stays as it is. -/
theorem Spread.of_plain {plain text : List Char} (other : '\t' ∉ plain)
    (spread : Spread plain text) : text = plain := by
  induction spread with
  | nil => rfl
  | tab => exact absurd (List.mem_cons_self ..) other
  | keep _ _ ih => rw [ih fun member => other (List.mem_cons_of_mem _ member)]

/-- A token in front of other text stays as it is. -/
theorem Spread.of_token {token back text : List Char} (plain : '\t' ∉ token)
    (spread : Spread (token ++ back) text) :
    ∃ back', Spread back back' ∧ text = token ++ back' := by
  obtain ⟨token', back', first, second, rfl⟩ := spread.of_append
  exact ⟨back', second, by rw [first.of_plain plain]⟩

/-! ## Tokens -/

theorem Blanks.replicate_append {count : Nat} {rest : List Char} (blanks : Blanks rest) :
    Blanks (List.replicate count ' ' ++ rest) := by
  intro c member
  rcases List.mem_append.mp member with here | later
  · rw [List.eq_of_mem_replicate here]
    rfl
  · exact blanks c later

theorem Blanks.spread {gap text : List Char} (blanks : Blanks gap) (spread : Spread gap text) :
    Blanks text := by
  induction spread with
  | nil => exact .nil
  | tab _ _ ih => exact (ih blanks.tail).replicate_append
  | keep _ _ ih => exact .cons (blanks _ (List.mem_cons_self ..)) (ih blanks.tail)

theorem Spread.ne_nil {gap text : List Char} (spread : Spread gap text) (filled : gap ≠ []) :
    text ≠ [] := by
  cases spread with
  | nil => contradiction
  | tab positive => simp [Nat.ne_of_gt positive]
  | keep => exact List.cons_ne_nil _ _

theorem IsName.noTab {name : String} (valid : IsName name) : '\t' ∉ name.toList :=
  fun member => absurd (valid.all _ member) (by decide)

theorem Literal.Valid.noTab {literal : Literal} (valid : literal.Valid) : '\t' ∉ literal.text := by
  have digits : '\t' ∉ literal.digits := fun member =>
    absurd (Literal.isHexDigit_of_digit (valid.digit _ member)) (by decide)
  cases literal with
  | decimal => exact digits
  | hexadecimal capital => cases capital <;> simpa [text, Literal.digits] using digits
  | binary capital => cases capital <;> simpa [text, Literal.digits] using digits

theorem RegisterText.noTab {number : Register} {text : List Char}
    (spelled : RegisterText number text) : '\t' ∉ text := by
  cases spelled with
  | @mk letter digit isLetter isDigit =>
    have other : digit ≠ '\t' := by
      rintro rfl
      exact absurd isDigit (by decide)
    rcases isLetter with rfl | rfl <;> simp [other.symm]

theorem fixedTexts_noTab : ∀ text ∈ fixedTexts, '\t' ∉ text.toList := by decide

theorem Form.mnemonic_noTab (form : Form) : '\t' ∉ form.mnemonic.toList := by
  cases form <;> decide

/-! ## Statements -/

section SpreadTexts

variable {text text' : List Char}

theorem ReferenceText.spread {target : Reference} (spelled : ReferenceText target text)
    (spread : Spread text text') : ReferenceText target text' := by
  cases spelled with
  | near name gap =>
    obtain ⟨_, spread₁, rfl⟩ := spread.of_cons (by decide)
    obtain ⟨gap', _, first, spread₂, rfl⟩ := spread₁.of_append
    rw [spread₂.of_plain name.noTab]
    exact .near name (gap.spread first)
  | far scope name gap before behind =>
    obtain ⟨_, spread₁, rfl⟩ := spread.of_cons (by decide)
    obtain ⟨gap', _, first, spread₂, rfl⟩ := spread₁.of_append
    obtain ⟨_, spread₃, rfl⟩ := spread₂.of_token scope.noTab
    obtain ⟨before', _, second, spread₄, rfl⟩ := spread₃.of_append
    obtain ⟨_, spread₅, rfl⟩ := spread₄.of_cons (by decide)
    obtain ⟨_, spread₆, rfl⟩ := spread₅.of_cons (by decide)
    obtain ⟨behind', _, third, spread₇, rfl⟩ := spread₆.of_append
    rw [spread₇.of_plain name.noTab]
    exact .far scope name (gap.spread first) (before.spread second) (behind.spread third)

theorem AddressText.spread {operand : Operand Literal} (spelled : AddressText operand text)
    (spread : Spread text text') : AddressText operand text' := by
  cases spelled with
  | number valid =>
    rw [spread.of_plain valid.noTab]
    exact .number valid
  | reference target => exact .reference (target.spread spread)

theorem SlotText.spread {slot : Slot} {operand : Option (Operand Literal)}
    (spelled : SlotText slot operand text) (spread : Spread text text') :
    SlotText slot operand text' := by
  cases spelled with
  | x register =>
    rw [spread.of_plain register.noTab]
    exact .x register
  | y register =>
    rw [spread.of_plain register.noTab]
    exact .y register
  | digit valid =>
    rw [spread.of_plain valid.noTab]
    exact .digit valid
  | byte valid =>
    rw [spread.of_plain valid.noTab]
    exact .byte valid
  | address address => exact .address (address.spread spread)
  | fixed known =>
    rw [spread.of_plain (fixedTexts_noTab _ known)]
    exact .fixed known

theorem OperandsText.spread {slots : List Slot} {operands : List (Operand Literal)}
    (spelled : OperandsText slots operands text) (spread : Spread text text') :
    OperandsText slots operands text' := by
  induction spelled generalizing text' with
  | nil =>
    cases spread
    exact .nil
  | cons before behind operand _ ih =>
    obtain ⟨before', _, first, spread₁, rfl⟩ := spread.of_append
    obtain ⟨_, spread₂, rfl⟩ := spread₁.of_cons (by decide)
    obtain ⟨behind', _, second, spread₃, rfl⟩ := spread₂.of_append
    obtain ⟨text', _, third, spread₄, rfl⟩ := spread₃.of_append
    exact .cons (before.spread first) (behind.spread second) (operand.spread third) (ih spread₄)

theorem FormText.spread {slots : List Slot} {operands : List (Operand Literal)}
    (spelled : FormText slots operands text) (spread : Spread text text') :
    FormText slots operands text' := by
  cases spelled with
  | plain =>
    cases spread
    exact .plain
  | operands gap filled operand others =>
    obtain ⟨gap', _, first, spread₁, rfl⟩ := spread.of_append
    obtain ⟨text', _, second, spread₂, rfl⟩ := spread₁.of_append
    exact .operands (gap.spread first) (first.ne_nil filled) (operand.spread second)
      (others.spread spread₂)

theorem NumbersText.spread {literals : List Literal} (spelled : NumbersText literals text)
    (spread : Spread text text') : NumbersText literals text' := by
  induction spelled generalizing text' with
  | nil =>
    cases spread
    exact .nil
  | cons before behind valid _ ih =>
    obtain ⟨before', _, first, spread₁, rfl⟩ := spread.of_append
    obtain ⟨_, spread₂, rfl⟩ := spread₁.of_cons (by decide)
    obtain ⟨behind', _, second, spread₃, rfl⟩ := spread₂.of_append
    obtain ⟨_, spread₄, rfl⟩ := spread₃.of_token valid.noTab
    exact .cons (before.spread first) (behind.spread second) valid (ih spread₄)

theorem StatementText.spread {statement : Statement Literal}
    (spelled : StatementText statement text) (spread : Spread text text') :
    StatementText statement text' := by
  cases spelled with
  | label name gap =>
    obtain ⟨_, spread₁, rfl⟩ := spread.of_token name.noTab
    obtain ⟨gap', _, first, spread₂, rfl⟩ := spread₁.of_append
    rw [spread₂.of_plain (by decide)]
    exact .label name (gap.spread first)
  | @instruction form operands text operandsText =>
    obtain ⟨_, spread₁, rfl⟩ := spread.of_token form.mnemonic_noTab
    exact .instruction (operandsText.spread spread₁)
  | bytes gap filled valid others =>
    obtain ⟨_, spread₁, rfl⟩ := spread.of_token (by decide)
    obtain ⟨gap', _, first, spread₂, rfl⟩ := spread₁.of_append
    obtain ⟨_, spread₃, rfl⟩ := spread₂.of_token valid.noTab
    exact .bytes (gap.spread first) (first.ne_nil filled) valid (others.spread spread₃)
  | word gap filled address =>
    obtain ⟨_, spread₁, rfl⟩ := spread.of_token (by decide)
    obtain ⟨gap', _, first, spread₂, rfl⟩ := spread₁.of_append
    exact .word (gap.spread first) (first.ne_nil filled) (address.spread spread₂)

theorem GapText.replicate_append {count : Nat} (spelled : GapText text) :
    GapText (List.replicate count ' ' ++ text) := by
  induction count with
  | zero => exact spelled
  | succ count ih => exact .blank rfl ih

/-- Spreading tabs puts no line feed into a text. -/
theorem Spread.lineFeed_not_mem (spread : Spread text text') (absent : '\n' ∉ text) :
    '\n' ∉ text' := by
  induction spread with
  | nil => exact absent
  | tab _ _ ih =>
    rw [List.mem_append, not_or]
    refine ⟨?_, ih fun member => absent (List.mem_cons_of_mem _ member)⟩
    intro member
    exact absurd (List.eq_of_mem_replicate member) (by decide)
  | keep _ _ ih =>
    rw [List.mem_cons, not_or] at absent ⊢
    exact ⟨absent.1, ih absent.2⟩

theorem GapText.spread (spelled : GapText text) (spread : Spread text text') : GapText text' := by
  induction spelled generalizing text' with
  | nil =>
    cases spread
    exact .nil
  | blank blank _ ih =>
    cases spread with
    | tab _ rest => exact GapText.replicate_append (ih rest)
    | keep _ rest => exact .blank blank (ih rest)
  | comment absent _ ih =>
    obtain ⟨_, spread₁, rfl⟩ := spread.of_cons (by decide)
    obtain ⟨_, spread₂, rfl⟩ := spread₁.of_cons (by decide)
    obtain ⟨comment', _, first, spread₃, rfl⟩ := spread₂.of_append
    obtain ⟨_, spread₄, rfl⟩ := spread₃.of_cons (by decide)
    exact .comment (first.lineFeed_not_mem absent) (ih spread₄)

theorem StatementsText.spread {statements : List (Statement Literal)}
    (spelled : StatementsText statements text) (spread : Spread text text') :
    StatementsText statements text' := by
  induction spelled generalizing text' with
  | done gap => exact .done (gap.spread spread)
  | next gap filled statement _ ih =>
    obtain ⟨gap', _, first, spread₁, rfl⟩ := spread.of_append
    obtain ⟨statement', _, second, spread₂, rfl⟩ := spread₁.of_append
    exact .next (gap.spread first) (first.ne_nil filled) (statement.spread second) (ih spread₂)

/-- Spreading the tabs of a source leaves its statements as they are. -/
theorem ProgramText.spread {statements : List (Statement Literal)}
    (spelled : ProgramText statements text) (spread : Spread text text') :
    ProgramText statements text' := by
  cases spelled with
  | empty gap => exact .empty (gap.spread spread)
  | start gap statement others =>
    obtain ⟨gap', _, first, spread₁, rfl⟩ := spread.of_append
    obtain ⟨statement', _, second, spread₂, rfl⟩ := spread₁.of_append
    exact .start (gap.spread first) (statement.spread second) (others.spread spread₂)

end SpreadTexts

end Chip8.Assembly
