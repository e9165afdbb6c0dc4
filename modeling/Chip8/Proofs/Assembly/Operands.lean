import Chip8.Proofs.Assembly.Tokens

/-! # Reading operands that are written down

What is spelled for a slot is read there, and what is spelled for a row of slots is read by that row
to its end (`Cursor.operands?_append`). A row that starts another way or is shorter or longer stops
earlier, if it reads anything (`Cursor.operands?_other`).
-/

namespace Chip8.Assembly

/-- What may follow a statement: nothing that continues an operand or leads to a further one. -/
structure Finished (rest : List Char) : Prop extends Delimited rest where
  noComma : firstVisible rest ≠ some ','

/-! ## Slots -/

def decimalDigits : List Char := ['0', '1', '2', '3', '4', '5', '6', '7', '8', '9']

theorem mem_decimalDigits {c : Char} (digit : c.isDigit) : c ∈ decimalDigits := by
  have checked : ∀ code < 128, (Char.ofNat code).isDigit → Char.ofNat code ∈ decimalDigits := by
    decide +kernel
  have fact := checked c.toNat (isHexDigit_small (isHexDigit_of_isDigit digit))
  rw [Char.ofNat_toNat] at fact
  exact fact digit

/-- The characters with which what stands in a slot can start. -/
def Slot.firsts : Slot → List Char
  | .x | .y => ['v', 'V']
  | .digit | .byte => decimalDigits
  | .address => '&' :: decimalDigits
  | .fixed text => text.toList.head?.toList

/-- Where blanks stand in front, what follows them or a blank comes first. -/
theorem Blanks.stops {gap more : List Char} (blanks : Blanks gap) {test : Char → Bool}
    (apart : delimiters.all fun c => !test c) (stops : more.head?.any test = false) :
    (gap ++ more).head?.any test = false := by
  cases gap with
  | nil => exact stops
  | cons c gap =>
    exact delimiters_apart apart (mem_delimiters_of_isSpace (blanks c (List.mem_cons_self ..)))

theorem joinsKeyword_eq_false_of_isSpace {c : Char} (blank : isSpace c) : joinsKeyword c = false :=
  delimiters_apart (by decide) (mem_delimiters_of_isSpace blank)

/-- Blanks do not join a keyword to what stands in front of them. -/
theorem Blanks.noJoin {gap : List Char} (blanks : Blanks gap) {before : Char}
    (apart : joinsKeyword before = false) : joinsKeyword (gap.getLastD before) = false := by
  induction gap generalizing before with
  | nil => exact apart
  | cons c gap ih =>
    rw [List.getLastD_cons]
    exact ih blanks.tail (joinsKeyword_eq_false_of_isSpace (blanks c (List.mem_cons_self ..)))

theorem fixedTexts_solid : ∀ text ∈ fixedTexts, Solid text.toList := by
  intro text known
  apply solid_of_head?
  revert text
  decide

theorem Literal.Valid.head {literal : Literal} (valid : literal.Valid) :
    ∃ c, literal.text.head? = some c ∧ c ∈ decimalDigits := by
  cases literal with
  | hexadecimal => exact ⟨'0', rfl, by decide⟩
  | binary => exact ⟨'0', rfl, by decide⟩
  | decimal digits =>
    obtain ⟨c, more, rfl⟩ := List.exists_cons_of_ne_nil valid.filled
    exact ⟨c, rfl, mem_decimalDigits (valid.digit c (List.mem_cons_self ..))⟩

theorem ReferenceText.head {target : Reference} {text : List Char}
    (spelled : ReferenceText target text) : text.head? = some '&' := by
  cases spelled with
  | near => rfl
  | far => rfl

theorem ReferenceText.solid {target : Reference} {text : List Char}
    (spelled : ReferenceText target text) : Solid text := by
  apply solid_of_head?
  rw [spelled.head]
  rfl

theorem AddressText.solid {operand : Operand Literal} {text : List Char}
    (spelled : AddressText operand text) : Solid text := by
  cases spelled with
  | number valid => exact valid.solid
  | reference target => exact target.solid

theorem SlotText.solid {slot : Slot} {operand : Option (Operand Literal)} {text : List Char}
    (spelled : SlotText slot operand text) : Solid text := by
  cases spelled with
  | x register => exact register.solid
  | y register => exact register.solid
  | digit valid => exact valid.solid
  | byte valid => exact valid.solid
  | address address => exact address.solid
  | fixed known => exact fixedTexts_solid _ known

theorem SlotText.head {slot : Slot} {operand : Option (Operand Literal)} {text : List Char}
    (spelled : SlotText slot operand text) : ∃ c, text.head? = some c ∧ c ∈ slot.firsts := by
  have register {number : Register} (spelled : RegisterText number text) :
      ∃ c, text.head? = some c ∧ c ∈ Slot.x.firsts := by
    cases spelled with
    | mk letter _ => rcases letter with rfl | rfl <;> exact ⟨_, rfl, by decide⟩
  cases spelled with
  | x spelled => exact register spelled
  | y spelled => exact register spelled
  | digit valid => exact valid.head
  | byte valid => exact valid.head
  | address address =>
    cases address with
    | number valid =>
      obtain ⟨c, first, digit⟩ := valid.head
      exact ⟨c, first, List.mem_cons_of_mem _ digit⟩
    | reference target => exact ⟨'&', target.head, List.mem_cons_self ..⟩
  | @fixed text known =>
    obtain ⟨c, more, shape, _⟩ := fixedTexts_solid text known
    refine ⟨c, ?_, ?_⟩
    · rw [shape, List.head?_cons]
    · rw [Slot.firsts, shape]
      exact List.mem_singleton_self c

namespace Cursor

variable {before : Char} {gap text rest : List Char}

theorem reference?_append {target : Reference} (spelled : ReferenceText target text)
    (blanks : Blanks gap) (delimited : Delimited rest) :
    ∃ last, (⟨before, gap ++ (text ++ rest)⟩ : Cursor).reference? =
      some (target, ⟨last, rest⟩) := by
  have mark (more : List Char) : (⟨before, gap ++ (['&'] ++ more)⟩ : Cursor).symbol? "&" = _ :=
    symbol?_append rfl blanks ⟨'&', [], rfl, rfl⟩
  have stops : rest.head?.any isNameChar = false := delimited.stops (by decide)
  cases spelled with
  | @near name inner valid innerBlanks =>
    have shape : gap ++ (('&' :: (inner ++ name.toList)) ++ rest) =
        gap ++ (['&'] ++ (inner ++ (name.toList ++ rest))) := by simp
    obtain ⟨last, named⟩ : ∃ last, (⟨'&', inner ++ (name.toList ++ rest)⟩ : Cursor).name? =
        some (name, ⟨last, rest⟩) := name?_append valid innerBlanks stops
    have noScope : (⟨last, rest⟩ : Cursor).symbol? "::" = none :=
      symbol?_eq_none rfl delimited.noColon
    refine ⟨last, ?_⟩
    rw [shape, reference?, mark]
    simp only [Option.bind_eq_bind, Option.bind_some, List.getLastD_cons, List.getLastD_nil, named,
      noScope]
  | @far scope name inner front back validScope valid innerBlanks frontBlanks backBlanks =>
    have shape : gap ++ (('&' :: (inner ++ (scope.toList ++ (front ++ ':' :: ':' ::
        (back ++ name.toList))))) ++ rest) =
        gap ++ (['&'] ++ (inner ++ (scope.toList ++ (front ++ ([':', ':'] ++
          (back ++ (name.toList ++ rest))))))) := by simp
    have scopeStops : (front ++ ([':', ':'] ++ (back ++ (name.toList ++ rest)))).head?.any
        isNameChar = false := frontBlanks.stops (by decide) rfl
    obtain ⟨middle, scopeNamed⟩ : ∃ last, (⟨'&', inner ++ (scope.toList ++ (front ++ ([':', ':'] ++
        (back ++ (name.toList ++ rest)))))⟩ : Cursor).name? = some (scope, ⟨last, _⟩) :=
      name?_append validScope innerBlanks scopeStops
    have colons : (⟨middle, front ++ ([':', ':'] ++ (back ++ (name.toList ++ rest)))⟩ :
        Cursor).symbol? "::" = _ := symbol?_append rfl frontBlanks ⟨':', [':'], rfl, rfl⟩
    obtain ⟨last, named⟩ : ∃ last, (⟨':', back ++ (name.toList ++ rest)⟩ : Cursor).name? =
        some (name, ⟨last, rest⟩) := name?_append valid backBlanks stops
    refine ⟨last, ?_⟩
    rw [shape, reference?, mark]
    simp only [Option.bind_eq_bind, Option.bind_some, List.getLastD_cons, List.getLastD_nil,
      scopeNamed, colons, named]

theorem reference?_firstVisible {cursor behind : Cursor} {target : Reference}
    (found : cursor.reference? = some (target, behind)) : firstVisible cursor.rest = some '&' := by
  simp only [reference?, Option.bind_eq_bind, Option.bind_eq_some_iff] at found
  obtain ⟨mark, marked, _⟩ := found
  exact symbol?_firstVisible rfl marked

theorem address?_append {operand : Operand Literal} (spelled : AddressText operand text)
    (blanks : Blanks gap) (delimited : Delimited rest) :
    ∃ last, (⟨before, gap ++ (text ++ rest)⟩ : Cursor).address? =
      some (operand.map Literal.text, ⟨last, rest⟩) := by
  cases spelled with
  | @number literal valid =>
    obtain ⟨last, read⟩ : ∃ last, (⟨before, gap ++ (literal.text ++ rest)⟩ : Cursor).numeral? =
        some (literal.text, ⟨last, rest⟩) :=
      numeral?_append valid blanks (delimited.stops (by decide))
    refine ⟨last, ?_⟩
    rw [address?, read]
    rfl
  | @reference target text spelled =>
    obtain ⟨last, read⟩ : ∃ last, (⟨before, gap ++ (text ++ rest)⟩ : Cursor).reference? =
        some (target, ⟨last, rest⟩) := reference?_append spelled blanks delimited
    have noNumeral : (⟨before, gap ++ (text ++ rest)⟩ : Cursor).numeral? = none := by
      apply Option.eq_none_iff_forall_ne_some.mpr
      rintro ⟨numeral, behind⟩ found
      obtain ⟨c, visible, digit⟩ := numeral?_firstVisible found
      rw [firstVisible_append blanks, spelled.solid.firstVisible, spelled.head] at visible
      cases visible
      contradiction
    refine ⟨last, ?_⟩
    rw [address?, noNumeral, read]
    rfl

/-- What is spelled for a slot is read there. -/
theorem operand?_append {slot : Slot} {operand : Option (Operand Literal)}
    (spelled : SlotText slot operand text) (blanks : Blanks gap) (delimited : Delimited rest)
    (apart : joinsKeyword (gap.getLastD before) = false) :
    ∃ last, (⟨before, gap ++ (text ++ rest)⟩ : Cursor).operand? slot =
      some (operand.map (Operand.map Literal.text), ⟨last, rest⟩) := by
  cases spelled with
  | x register =>
    obtain ⟨last, read⟩ := register?_append register blanks (delimited.stops (by decide))
    exact ⟨last, by rw [operand?, read]; rfl⟩
  | y register =>
    obtain ⟨last, read⟩ := register?_append register blanks (delimited.stops (by decide))
    exact ⟨last, by rw [operand?, read]; rfl⟩
  | digit valid =>
    obtain ⟨last, read⟩ := numeral?_append valid blanks (delimited.stops (by decide))
    exact ⟨last, by rw [operand?, read]; rfl⟩
  | byte valid =>
    obtain ⟨last, read⟩ := numeral?_append valid blanks (delimited.stops (by decide))
    exact ⟨last, by rw [operand?, read]; rfl⟩
  | address address =>
    obtain ⟨last, read⟩ := address?_append address blanks delimited
    exact ⟨last, by rw [operand?, read]; rfl⟩
  | @fixed text known =>
    have solid := fixedTexts_solid text known
    rw [operand?]
    split
    · obtain ⟨last, read⟩ := keyword?_append blanks solid apart (delimited.stops (by decide))
      exact ⟨last, by rw [read]; rfl⟩
    · rw [symbol?_append rfl blanks solid]
      exact ⟨_, rfl⟩

/-- What is read in a slot starts with one of the slot's first characters. -/
theorem operand?_firstVisible {slot : Slot} (known : slot.Known) {cursor behind : Cursor}
    {operand : Option (Operand (List Char))}
    (found : cursor.operand? slot = some (operand, behind)) :
    ∃ c ∈ slot.firsts, firstVisible cursor.rest = some c := by
  have register {number : Register} {behind : Cursor}
      (read : cursor.register? = some (number, behind)) :
      ∃ c ∈ Slot.x.firsts, firstVisible cursor.rest = some c := by
    rcases register?_firstVisible read with small | capital
    · exact ⟨'v', by decide, small⟩
    · exact ⟨'V', by decide, capital⟩
  have numeral {text : List Char} {behind : Cursor} (read : cursor.numeral? = some (text, behind)) :
      ∃ c ∈ decimalDigits, firstVisible cursor.rest = some c := by
    obtain ⟨c, visible, digit⟩ := numeral?_firstVisible read
    exact ⟨c, mem_decimalDigits digit, visible⟩
  cases slot with
  | x =>
    obtain ⟨_, read, _⟩ := Option.map_eq_some_iff.mp found
    exact register read
  | y =>
    obtain ⟨_, read, _⟩ := Option.map_eq_some_iff.mp found
    exact register read
  | digit =>
    obtain ⟨_, read, _⟩ := Option.map_eq_some_iff.mp found
    exact numeral read
  | byte =>
    obtain ⟨_, read, _⟩ := Option.map_eq_some_iff.mp found
    exact numeral read
  | address =>
    obtain ⟨_, read, _⟩ := Option.map_eq_some_iff.mp found
    unfold address? at read
    split at read
    · rename_i here
      obtain ⟨c, digit, visible⟩ := numeral here
      exact ⟨c, List.mem_cons_of_mem _ digit, visible⟩
    · obtain ⟨_, read, _⟩ := Option.map_eq_some_iff.mp read
      exact ⟨'&', List.mem_cons_self .., reference?_firstVisible read⟩
  | fixed text =>
    obtain ⟨c, more, shape, _⟩ := fixedTexts_solid text known
    have starts : text.toList.head? = some c := by rw [shape, List.head?_cons]
    refine ⟨c, by rw [Slot.firsts, starts]; exact List.mem_singleton_self c, ?_⟩
    rw [operand?] at found
    obtain ⟨place, read, _⟩ := Option.map_eq_some_iff.mp found
    split at read
    · exact keyword?_firstVisible starts read
    · exact symbol?_firstVisible starts read

/-- Nothing is read in a slot that starts with other characters than what is spelled. -/
theorem operand?_apart {slot other : Slot} {operand : Option (Operand Literal)}
    (spelled : SlotText slot operand text) (blanks : Blanks gap) (known : other.Known)
    (apart : slot.firsts.all fun c => !other.firsts.contains c)
    (found : Option (Operand (List Char)) × Cursor) :
    (⟨before, gap ++ (text ++ rest)⟩ : Cursor).operand? other ≠ some found := by
  intro read
  obtain ⟨c, starts, visible⟩ := operand?_firstVisible known read
  obtain ⟨c', head, firsts⟩ := spelled.head
  rw [firstVisible_append blanks, spelled.solid.firstVisible, head] at visible
  cases visible
  have absent := List.all_eq_true.mp apart c firsts
  simp [starts] at absent

end Cursor

/-! ## Rows of slots -/

/-- A comma delimits an operand. -/
theorem delimited_comma {gap : List Char} (blanks : Blanks gap) (rest : List Char) :
    Delimited (gap ++ ',' :: rest) := by
  constructor
  · intro c first
    cases gap with
    | nil =>
      cases first
      decide
    | cons blank gap =>
      cases first
      exact mem_delimiters_of_isSpace (blanks _ (List.mem_cons_self ..))
  · rw [firstVisible_append blanks, firstVisible_cons rfl]
    decide

theorem OperandsText.delimited {slots : List Slot} {operands : List (Operand Literal)}
    {text rest : List Char} (spelled : OperandsText slots operands text)
    (delimited : Delimited rest) : Delimited (text ++ rest) := by
  cases spelled with
  | nil => exact delimited
  | cons blanks =>
    rw [List.append_assoc]
    exact delimited_comma blanks _

/-- Whether a row of slots stops early, if it reads anything, where another row is written down. -/
def stopsEarly : List Slot → List Slot → Bool
  | [], [] => false
  | [], _ :: _ => true
  | _ :: _, [] => true
  | slot :: slots, other :: others =>
    (slot.firsts.all fun c => !other.firsts.contains c) ||
      (slot == other && stopsEarly slots others)

namespace Cursor

variable {before : Char} {text rest : List Char} {slots others : List Slot}
  {operands : List (Operand Literal)}

/-- What is spelled for a row of slots is read by that row. -/
theorem operands?_append (spelled : OperandsText slots operands text) (delimited : Delimited rest) :
    ∃ last, (⟨before, text ++ rest⟩ : Cursor).operands? false slots =
      some (operands.map (Operand.map Literal.text), ⟨last, rest⟩) := by
  induction spelled generalizing before with
  | nil => exact ⟨before, rfl⟩
  | @cons slot slots operand operands front back here more frontBlanks backBlanks spelled others
      ih =>
    have shape : (front ++ ',' :: (back ++ (here ++ more))) ++ rest =
        front ++ ([','] ++ (back ++ (here ++ (more ++ rest)))) := by simp
    have comma : (⟨before, front ++ ([','] ++ (back ++ (here ++ (more ++ rest))))⟩ :
        Cursor).symbol? "," = _ := symbol?_append rfl frontBlanks ⟨',', [], rfl, rfl⟩
    obtain ⟨middle, read⟩ : ∃ last, (⟨',', back ++ (here ++ (more ++ rest))⟩ :
        Cursor).operand? slot = some (_, ⟨last, _⟩) :=
      operand?_append spelled backBlanks (others.delimited delimited) (backBlanks.noJoin rfl)
    obtain ⟨last, later⟩ : ∃ last, (⟨middle, more ++ rest⟩ : Cursor).operands? false slots =
        some (_, ⟨last, rest⟩) := ih
    refine ⟨last, ?_⟩
    rw [shape, operands?, separator?, if_neg (by decide), comma]
    simp only [Option.bind_eq_bind, Option.bind_some, List.getLastD_cons, List.getLastD_nil, read,
      later]
    cases operand <;> rfl

/-- A row that differs from what is written down stops in front of its end, if it reads anything. -/
theorem operands?_other (spelled : OperandsText slots operands text) (finished : Finished rest)
    (known : ∀ slot ∈ others, slot.Known) (early : stopsEarly slots others)
    {read : List (Operand (List Char))} {behind : Cursor}
    (found : (⟨before, text ++ rest⟩ : Cursor).operands? false others = some (read, behind)) :
    rest.length < behind.remaining := by
  induction spelled generalizing before others read with
  | nil =>
    cases others with
    | nil => contradiction
    | cons other others =>
      simp only [operands?, separator?, Option.bind_eq_bind, Option.bind_eq_some_iff] at found
      obtain ⟨place, comma, _⟩ := found
      exact absurd (symbol?_firstVisible rfl comma) finished.noComma
  | @cons slot slots operand operands front back here more frontBlanks backBlanks spelled further
      ih =>
    cases others with
    | nil =>
      cases found
      simp only [remaining, List.length_append, List.length_cons]
      omega
    | cons other others =>
      have shape : (front ++ ',' :: (back ++ (here ++ more))) ++ rest =
          front ++ ([','] ++ (back ++ (here ++ (more ++ rest)))) := by simp
      have comma : (⟨before, front ++ ([','] ++ (back ++ (here ++ (more ++ rest))))⟩ :
          Cursor).symbol? "," = _ := symbol?_append rfl frontBlanks ⟨',', [], rfl, rfl⟩
      rw [shape, operands?, separator?, if_neg (by decide), comma] at found
      simp only [Option.bind_eq_bind, Option.bind_some, Option.bind_eq_some_iff, Prod.exists,
        List.getLastD_cons, List.getLastD_nil] at found
      obtain ⟨value, place, first, values, last, later, same⟩ := found
      cases same
      rw [stopsEarly, Bool.or_eq_true, Bool.and_eq_true] at early
      rcases early with apart | ⟨same, early⟩
      · exact absurd first (operand?_apart spelled backBlanks (known other (List.mem_cons_self ..))
          apart _)
      · obtain rfl := beq_iff_eq.mp same
        obtain ⟨middle, expected⟩ : ∃ last, (⟨',', back ++ (here ++ (more ++ rest))⟩ :
            Cursor).operand? slot = some (_, ⟨last, _⟩) :=
          operand?_append spelled backBlanks (further.delimited finished.toDelimited)
            (backBlanks.noJoin rfl)
        rw [expected] at first
        cases first
        exact ih (fun slot member => known slot (List.mem_cons_of_mem _ member)) early later

end Cursor

end Chip8.Assembly
