import Chip8.Proofs.Assembly.Forms

/-! # Tokens in front of a further text

A source can be followed by a line feed and a further text. Line feeds are blanks like any other, so
what is written at the end of the source could go on in the further text. It does not if the further
text starts with a statement or a comment: what is read in front of it is read the same with it
behind. That holds for tokens and for rows of operands (`Cursor.operands?_followed`), and a row that
fails in front of it does not succeed with it behind (`Cursor.operands?_other_followed`).
-/

namespace Chip8.Assembly

/-! ## Texts that follow -/

/-- A line feed and behind it, if anything but blanks, something that a statement or a comment can
start with. -/
structure FreshLine (tail : List Char) : Prop where
  lineFeed : tail.head? = some '\n'
  start : ∀ c, firstVisible tail = some c → isNameStart c ∨ c = '/'

/-- The first character that is no blank stands in the text, or else in what follows it. -/
theorem firstVisible_or (text tail : List Char) :
    firstVisible (text ++ tail) = (firstVisible text).or (firstVisible tail) := by
  rw [firstVisible, firstVisible, firstVisible, List.dropWhile_append]
  cases text.dropWhile isSpace <;> rfl

theorem IsName.oneLine {name : String} (valid : IsName name) : '\n' ∉ name.toList :=
  fun member => absurd (valid.all _ member) (by decide)

namespace Cursor

def followedBy (cursor : Cursor) (tail : List Char) : Cursor :=
  ⟨cursor.before, cursor.rest ++ tail⟩

def readOn {α : Type} (tail : List Char) (reading : α × Cursor) : α × Cursor :=
  (reading.1, reading.2.followedBy tail)

/-- Not only blanks are left. -/
def Visible (cursor : Cursor) : Prop := cursor.skipSpace.rest ≠ []

theorem visible_of_firstVisible {cursor : Cursor} {c : Char}
    (visible : firstVisible cursor.rest = some c) : cursor.Visible := by
  rw [← skipSpace_head?] at visible
  intro empty
  rw [empty] at visible
  contradiction

theorem name?_firstVisible {cursor behind : Cursor} {name : String}
    (found : cursor.name? = some (name, behind)) :
    ∃ c, firstVisible cursor.rest = some c ∧ isNameStart c := by
  rw [← skipSpace_head?]
  rw [name?] at found
  split_ifs at found with starts
  cases first : cursor.skipSpace.rest.head? with
  | none =>
    rw [first] at starts
    contradiction
  | some c =>
    rw [first] at starts
    exact ⟨c, rfl, starts⟩

theorem firstVisible_followed {cursor : Cursor} (visible : cursor.Visible) (tail : List Char) :
    firstVisible (cursor.followedBy tail).rest = firstVisible cursor.rest := by
  rw [followedBy, firstVisible_or, ← skipSpace_head?]
  cases shape : cursor.skipSpace.rest with
  | nil => exact absurd shape visible
  | cons c rest => rfl

variable {tail : List Char} {cursor behind : Cursor}

theorem fixedTexts_oneLine : ∀ text ∈ fixedTexts, '\n' ∉ text.toList := by decide

/-- Where something is read in a slot, nothing is read in a slot that starts with other characters,
whatever stands behind. -/
theorem operand?_eq_none_of_apart {cursor behind place : Cursor} {slot other : Slot}
    (known : slot.Known) (otherKnown : other.Known)
    (apart : slot.firsts.all fun c => !other.firsts.contains c)
    {operand : Option (Operand (List Char))}
    (found : cursor.operand? slot = some (operand, behind))
    (same : firstVisible place.rest = firstVisible cursor.rest) : place.operand? other = none := by
  obtain ⟨c, firsts, visible⟩ := operand?_firstVisible known found
  apply Option.eq_none_iff_forall_ne_some.mpr
  rintro ⟨operand, last⟩ read
  obtain ⟨c', otherFirsts, otherVisible⟩ := operand?_firstVisible otherKnown read
  rw [same, visible] at otherVisible
  cases otherVisible
  have absent := List.all_eq_true.mp apart c firsts
  simp [otherFirsts] at absent

section tokens

variable (fresh : FreshLine tail)

include fresh

theorem head?_followed {test : Char → Bool} (stops : test '\n' = false) (rest : List Char) :
    (rest ++ tail).head?.any test = rest.head?.any test := by
  cases rest with
  | nil =>
    rw [List.nil_append, fresh.lineFeed, Option.any_some, stops]
    rfl
  | cons c rest => rfl

/-- A run ends where it did, because the line feed or something in front of it ends it. -/
theorem passWhile_followed {test : Char → Bool} {before : Char} {text : List Char}
    (stops : test '\n' = false ∨ (passWhile test before text).2.rest ≠ []) :
    passWhile test before (text ++ tail) =
      ((passWhile test before text).1, (passWhile test before text).2.followedBy tail) := by
  induction text generalizing before with
  | nil =>
    have lineFeed := stops.resolve_right (fun filled => filled rfl)
    apply passWhile_of_head?
    rw [List.nil_append, fresh.lineFeed, Option.all_some, lineFeed]
    rfl
  | cons c text ih =>
    rw [List.cons_append, passWhile, passWhile]
    by_cases passes : test c
    · rw [passWhile, if_pos passes] at stops
      rw [if_pos passes, if_pos passes, ih stops]
    · rw [if_neg passes, if_neg passes]
      rfl

theorem run_followed {test : Char → Bool} (stops : test '\n' = false) (cursor : Cursor) :
    (cursor.followedBy tail).run test = readOn tail (cursor.run test) :=
  passWhile_followed fresh (.inl stops)

theorem skipSpace_followed (visible : cursor.Visible) :
    (cursor.followedBy tail).skipSpace = cursor.skipSpace.followedBy tail :=
  congrArg Prod.snd (passWhile_followed fresh (.inr visible))

/-! ## Marks, keywords and names -/

theorem exactly?_followed {text : List Char} (oneLine : '\n' ∉ text) (cursor : Cursor) :
    (cursor.followedBy tail).exactly? text = (cursor.exactly? text).map (·.followedBy tail) := by
  induction text generalizing cursor with
  | nil => rfl
  | cons expected more ih =>
    rw [List.mem_cons, not_or] at oneLine
    obtain ⟨before, text⟩ := cursor
    cases text with
    | nil =>
      obtain ⟨rest, rfl⟩ := List.head?_eq_some_iff.mp fresh.lineFeed
      rw [followedBy, List.nil_append, exactly?, exactly?]
      dsimp only
      rw [if_neg oneLine.1]
      rfl
    | cons c text =>
      rw [exactly?, exactly?]
      dsimp only [followedBy, List.cons_append]
      split_ifs
      · exact ih oneLine.2 ⟨c, text⟩
      · rfl

theorem symbol?_followed_of_visible {mark : String} (oneLine : '\n' ∉ mark.toList)
    (visible : cursor.Visible) :
    (cursor.followedBy tail).symbol? mark = (cursor.symbol? mark).map (·.followedBy tail) := by
  rw [symbol?, skipSpace_followed fresh visible, exactly?_followed fresh oneLine, symbol?]

/-- A mark that cannot start a statement or a comment is not found in what follows. -/
theorem symbol?_followed (mark : String) {c : Char} (starts : mark.toList.head? = some c)
    (apart : isNameStart c = false ∧ c ≠ '/') (oneLine : '\n' ∉ mark.toList) (cursor : Cursor) :
    (cursor.followedBy tail).symbol? mark = (cursor.symbol? mark).map (·.followedBy tail) := by
  by_cases visible : cursor.Visible
  · exact symbol?_followed_of_visible fresh oneLine visible
  · have blank : firstVisible cursor.rest = none := by
      rw [← skipSpace_head?, not_not.mp visible, List.head?_nil]
    rw [symbol?_eq_none starts, symbol?_eq_none starts, Option.map_none]
    · rw [blank]
      exact nofun
    · rw [followedBy, firstVisible_or, blank, Option.none_or]
      intro here
      rcases fresh.start c here with start | slash
      · exact absurd start (Bool.eq_false_iff.mp apart.1)
      · exact apart.2 slash

theorem comma_followed (cursor : Cursor) :
    (cursor.followedBy tail).symbol? "," = (cursor.symbol? ",").map (·.followedBy tail) :=
  symbol?_followed fresh "," rfl (by decide) (by decide) cursor

theorem keyword?_followed {word : String} (oneLine : '\n' ∉ word.toList)
    (visible : cursor.Visible) :
    (cursor.followedBy tail).keyword? word = (cursor.keyword? word).map (·.followedBy tail) := by
  simp only [keyword?, skipSpace_followed fresh visible, exactly?_followed fresh oneLine]
  have sameBefore : (cursor.skipSpace.followedBy tail).before = cursor.skipSpace.before := rfl
  rw [sameBefore]
  by_cases joined : joinsKeyword cursor.skipSpace.before
  · rw [if_pos joined, if_pos joined]
    rfl
  · rw [if_neg joined, if_neg joined]
    cases cursor.skipSpace.exactly? word.toList with
    | none => rfl
    | some behind =>
      have stops := head?_followed fresh (show joinsKeyword '\n' = false by decide) behind.rest
      simp only [Option.map_some, followedBy, stops]
      split_ifs <;> rfl

theorem name?_followed (visible : cursor.Visible) :
    (cursor.followedBy tail).name? = (cursor.name?).map (readOn tail) := by
  have start := head?_followed fresh (show isNameStart '\n' = false by decide) cursor.skipSpace.rest
  rw [name?, name?, skipSpace_followed fresh visible, run_followed fresh (by decide)]
  simp only [followedBy, start]
  split_ifs <;> rfl

/-! ## Numbers and registers -/

/-- Two characters that stand first with a further text behind stand first without it, unless the
line feed is one of them. -/
theorem firstTwo_followed {text more : List Char} {first second : Char}
    (shape : text ++ tail = first :: second :: more) (here : first ≠ '\n') (there : second ≠ '\n') :
    ∃ rest, text = first :: second :: rest := by
  obtain ⟨line, rfl⟩ := List.head?_eq_some_iff.mp fresh.lineFeed
  match text with
  | [] => exact absurd (List.cons.inj shape).1.symm here
  | [_] => exact absurd (List.cons.inj (List.cons.inj shape).2).1.symm there
  | _ :: _ :: rest =>
    cases shape
    exact ⟨rest, rfl⟩

theorem markedDigits?_followed {isMark test : Char → Bool} (noMark : isMark '\n' = false)
    (stops : test '\n' = false) (start : Cursor) :
    (start.followedBy tail).markedDigits? isMark test =
      (start.markedDigits? isMark test).map (readOn tail) := by
  obtain ⟨before, text⟩ := start
  by_cases marked : ∃ mark rest, text = '0' :: mark :: rest
  · obtain ⟨mark, rest, rfl⟩ := marked
    simp only [markedDigits?, followedBy, List.cons_append]
    rw [passWhile_followed fresh (.inl stops)]
    split_ifs
    · rcases passWhile test mark rest with ⟨_ | ⟨c, digits⟩, behind⟩ <;> rfl
    · rfl
  · rw [markedDigits?_eq_none, markedDigits?_eq_none]
    · rfl
    · intro mark more shape
      exact absurd ⟨mark, more, shape⟩ marked
    · intro mark more shape
      by_contra marks
      have visible : mark ≠ '\n' := by
        rintro rfl
        exact marks noMark
      obtain ⟨rest, same⟩ := firstTwo_followed fresh shape (by decide) visible
      exact marked ⟨mark, rest, same⟩

theorem numeral?_followed (visible : cursor.Visible) :
    (cursor.followedBy tail).numeral? = (cursor.numeral?).map (readOn tail) := by
  rw [numeral?, numeral?, skipSpace_followed fresh visible, markedDigits?_followed fresh rfl rfl,
    markedDigits?_followed fresh rfl rfl, run_followed fresh (by decide)]
  cases cursor.skipSpace.markedDigits? (fun c => c == 'x' || c == 'X') isHexDigit with
  | some numeral => rfl
  | none =>
    cases cursor.skipSpace.markedDigits? (fun c => c == 'b' || c == 'B') isBinaryDigit with
    | some numeral => rfl
    | none => rcases cursor.skipSpace.run Char.isDigit with ⟨_ | ⟨c, digits⟩, behind⟩ <;> rfl

theorem register?_followed (visible : cursor.Visible) :
    (cursor.followedBy tail).register? = (cursor.register?).map (readOn tail) := by
  rw [register?, register?, skipSpace_followed fresh visible]
  have filled : cursor.skipSpace.rest ≠ [] := visible
  generalize cursor.skipSpace = start at filled
  obtain ⟨before, text⟩ := start
  cases text with
  | nil => exact absurd rfl filled
  | cons letter text =>
    cases text with
    | nil =>
      obtain ⟨line, rfl⟩ := List.head?_eq_some_iff.mp fresh.lineFeed
      have noDigit : isHexDigit '\n' = false := by decide
      simp [followedBy, noDigit]
    | cons digit rest =>
      have stops := head?_followed fresh (show Text.isWordChar '\n' = false by decide) rest
      simp only [followedBy, List.cons_append, stops]
      split_ifs <;> rfl

/-! ## Operands -/

theorem numeral?_followed_of_some {text : List Char}
    (found : cursor.numeral? = some (text, behind)) :
    (cursor.followedBy tail).numeral? = some (text, behind.followedBy tail) := by
  obtain ⟨c, visible, _⟩ := numeral?_firstVisible found
  rw [numeral?_followed fresh (visible_of_firstVisible visible), found]
  rfl

theorem name?_followed_of_some {name : String} (found : cursor.name? = some (name, behind)) :
    (cursor.followedBy tail).name? = some (name, behind.followedBy tail) := by
  obtain ⟨c, visible, _⟩ := name?_firstVisible found
  rw [name?_followed fresh (visible_of_firstVisible visible), found]
  rfl

theorem reference?_followed {target : Reference}
    (found : cursor.reference? = some (target, behind)) :
    (cursor.followedBy tail).reference? = some (target, behind.followedBy tail) := by
  simp only [reference?, Option.bind_eq_bind, Option.bind_eq_some_iff, Prod.exists] at found
  obtain ⟨mark, marked, first, named, name, found⟩ := found
  have markedHere := symbol?_followed fresh "&" rfl (by decide) (by decide) cursor
  have colons := symbol?_followed fresh "::" rfl (by decide) (by decide) named
  rw [marked] at markedHere
  simp only [reference?, markedHere, Option.map_some, Option.bind_eq_bind, Option.bind_some,
    name?_followed_of_some fresh name, colons]
  cases separated : named.symbol? "::" with
  | none =>
    rw [separated] at found
    cases found
    rfl
  | some place =>
    rw [separated] at found
    simp only [Option.bind_eq_some_iff, Prod.exists] at found
    obtain ⟨second, last, name, found⟩ := found
    cases found
    simp only [Option.map_some, name?_followed_of_some fresh name, Option.bind_some]

theorem address?_followed {operand : Operand (List Char)}
    (found : cursor.address? = some (operand, behind)) :
    (cursor.followedBy tail).address? = some (operand, behind.followedBy tail) := by
  unfold address? at found
  split at found
  · rename_i numeral
    cases found
    rw [address?, numeral?_followed_of_some fresh numeral]
  · rename_i noNumeral
    obtain ⟨⟨target, place⟩, reference, same⟩ := Option.map_eq_some_iff.mp found
    cases same
    have visible := visible_of_firstVisible (reference?_firstVisible reference)
    rw [address?, numeral?_followed fresh visible, noNumeral, reference?_followed fresh reference]
    rfl

theorem operand?_followed {slot : Slot} (known : slot.Known)
    {operand : Option (Operand (List Char))}
    (found : cursor.operand? slot = some (operand, behind)) :
    (cursor.followedBy tail).operand? slot = some (operand, behind.followedBy tail) := by
  obtain ⟨c, _, first⟩ := operand?_firstVisible known found
  have visible := visible_of_firstVisible first
  cases slot with
  | x =>
    obtain ⟨⟨number, place⟩, register, same⟩ := Option.map_eq_some_iff.mp found
    cases same
    rw [operand?, register?_followed fresh visible, register]
    rfl
  | y =>
    obtain ⟨⟨number, place⟩, register, same⟩ := Option.map_eq_some_iff.mp found
    cases same
    rw [operand?, register?_followed fresh visible, register]
    rfl
  | digit =>
    obtain ⟨⟨text, place⟩, numeral, same⟩ := Option.map_eq_some_iff.mp found
    cases same
    rw [operand?, numeral?_followed_of_some fresh numeral]
    rfl
  | byte =>
    obtain ⟨⟨text, place⟩, numeral, same⟩ := Option.map_eq_some_iff.mp found
    cases same
    rw [operand?, numeral?_followed_of_some fresh numeral]
    rfl
  | address =>
    obtain ⟨⟨target, place⟩, address, same⟩ := Option.map_eq_some_iff.mp found
    cases same
    rw [operand?, address?_followed fresh address]
    rfl
  | fixed text =>
    have oneLine := fixedTexts_oneLine text known
    rw [operand?] at found ⊢
    rw [keyword?_followed fresh oneLine visible, symbol?_followed_of_visible fresh oneLine visible]
    obtain ⟨place, fixed, same⟩ := Option.map_eq_some_iff.mp found
    cases same
    split_ifs at fixed ⊢ with letters <;> rw [fixed] <;> rfl

theorem separator?_followed {first : Bool} (found : cursor.separator? first = some behind) :
    (cursor.followedBy tail).separator? first = some (behind.followedBy tail) := by
  cases first with
  | true =>
    cases found
    rfl
  | false =>
    have comma : cursor.symbol? "," = some behind := found
    exact (comma_followed fresh cursor).trans (congrArg _ comma)

theorem operands?_followed {first : Bool} {slots : List Slot} (known : ∀ slot ∈ slots, slot.Known)
    {operands : List (Operand (List Char))}
    (found : cursor.operands? first slots = some (operands, behind)) :
    (cursor.followedBy tail).operands? first slots = some (operands, behind.followedBy tail) := by
  induction slots generalizing cursor first operands with
  | nil =>
    cases found
    rfl
  | cons slot slots ih =>
    simp only [operands?, Option.bind_eq_bind, Option.bind_eq_some_iff, Prod.exists] at found
    obtain ⟨start, comma, operand, place, here, rest, last, others, same⟩ := found
    cases same
    obtain ⟨knownHere, knownLater⟩ := List.forall_mem_cons.mp known
    simp only [operands?, separator?_followed fresh comma, operand?_followed fresh knownHere here,
      ih knownLater others, Option.bind_eq_bind, Option.bind_some]

/-- Where a row of slots is read and no comma comes behind it, take another row such that one of the
two stops early: it is read the same with a further text behind, and fails the same. -/
theorem operands?_other_followed {first : Bool} {slots others : List Slot}
    (known : ∀ slot ∈ slots, slot.Known) (othersKnown : ∀ slot ∈ others, slot.Known)
    (early : stopsEarly slots others) (filled : slots = [] → first = false)
    {operands : List (Operand (List Char))}
    (found : cursor.operands? first slots = some (operands, behind))
    (finished : firstVisible behind.rest ≠ some ',') :
    (cursor.followedBy tail).operands? first others =
      (cursor.operands? first others).map (readOn tail) := by
  induction slots generalizing cursor first others operands with
  | nil =>
    cases found
    cases others with
    | nil => contradiction
    | cons other others =>
      have noComma : behind.symbol? "," = none := symbol?_eq_none rfl finished
      simp only [filled rfl, operands?, separator?, Bool.false_eq_true, if_false,
        comma_followed fresh, noComma, Option.map_none, Option.bind_eq_bind, Option.bind_none]
  | cons slot slots ih =>
    cases others with
    | nil => rfl
    | cons other others =>
      simp only [operands?, Option.bind_eq_bind, Option.bind_eq_some_iff, Prod.exists] at found
      obtain ⟨start, comma, operand, place, here, rest, last, later, same⟩ := found
      cases same
      obtain ⟨knownHere, knownLater⟩ := List.forall_mem_cons.mp known
      obtain ⟨otherKnown, furtherKnown⟩ := List.forall_mem_cons.mp othersKnown
      simp only [operands?, separator?_followed fresh comma, comma, Option.bind_eq_bind,
        Option.bind_some]
      rw [stopsEarly, Bool.or_eq_true, Bool.and_eq_true] at early
      rcases early with apart | ⟨same, early⟩
      · obtain ⟨c, _, visible⟩ := operand?_firstVisible knownHere here
        have sameStart := firstVisible_followed (visible_of_firstVisible visible) tail
        rw [operand?_eq_none_of_apart knownHere otherKnown apart here rfl,
          operand?_eq_none_of_apart knownHere otherKnown apart here sameStart]
        rfl
      · obtain rfl := beq_iff_eq.mp same
        have further := ih knownLater furtherKnown early (fun _ => rfl) later
        simp only [operand?_followed fresh knownHere here, here, further, Option.bind_some]
        cases place.operands? false others <;> rfl

end tokens

end Cursor

end Chip8.Assembly
