import Chip8.Proofs.Assembly.Continuation
import Chip8.Proofs.Assembly.Proper

/-! # Joining sources

Two sources that consist of statements and comments can be joined by a line feed: the joined source
is read as the statements of both, one after the other, and two modules of one name are assembled
like one module with the joined source (`joined_by_lineFeed`).
-/

namespace Chip8.Assembly

namespace Cursor

variable {cursor behind : Cursor}

/-! ## Statements that the reader knows -/

theorem keyword?_start {word : String} (valid : IsName word)
    (found : cursor.keyword? word = some behind) :
    ∃ c, firstVisible cursor.rest = some c ∧ isNameStart c := by
  obtain ⟨c, more, shape, start⟩ := valid.start
  exact ⟨c, keyword?_firstVisible (by rw [shape, List.head?_cons]) found, start⟩

/-- A statement that the reader knows starts with a letter or a low line. -/
theorem statement?_start {statement : Statement (List Char)}
    (found : cursor.statement? = some (statement, behind))
    (known : ∀ text, statement ≠ .unknown text) :
    ∃ c, firstVisible cursor.rest = some c ∧ isNameStart c := by
  simp only [statement?, Option.or_eq_some_iff] at found
  rcases found with label | ⟨_, instruction | ⟨_, bytes | ⟨_, word | ⟨_, unknown⟩⟩⟩⟩
  · simp only [label?, Option.bind_eq_bind, Option.bind_eq_some_iff, Prod.exists] at label
    obtain ⟨name, named, read, _⟩ := label
    exact name?_firstVisible read
  · obtain ⟨form, start, keyword⟩ := keyword?_of_instruction? instruction
    exact keyword?_start form.mnemonic_isName keyword
  · obtain ⟨start, keyword⟩ := keyword?_of_bytes? bytes
    exact keyword?_start isName_DB keyword
  · obtain ⟨start, keyword⟩ := keyword?_of_word? word
    exact keyword?_start isName_DW keyword
  · simp only [unknown?] at unknown
    split_ifs at unknown
    cases unknown
    exact absurd rfl (known _)

/-- A comment starts with a slash. -/
theorem next?_start {statement : Option (Statement (List Char))}
    (found : cursor.next? = some (statement, behind))
    (known : ∀ text, statement ≠ some (.unknown text)) :
    ∃ c, firstVisible cursor.rest = some c ∧ (isNameStart c ∨ c = '/') := by
  have same : firstVisible cursor.skipSpace.rest = firstVisible cursor.rest := by
    rw [← skipSpace_head?, ← skipSpace_head?, skipSpace_skipSpace]
  simp only [next?] at found
  cases comment : cursor.skipSpace.comment? with
  | some place =>
    obtain ⟨mark, marked, _⟩ := Option.map_eq_some_iff.mp comment
    exact ⟨'/', same ▸ symbol?_firstVisible rfl marked, .inr rfl⟩
  | none =>
    rw [comment] at found
    obtain ⟨⟨read, place⟩, choice, again⟩ := Option.map_eq_some_iff.mp found
    cases again
    obtain ⟨c, visible, start⟩ :=
      statement?_start choice fun text same => known text (congrArg some same)
    exact ⟨c, same ▸ visible, .inl start⟩

theorem skipSpace_of_next?_eq_none (stop : cursor.next? = none) : cursor.skipSpace.rest = [] := by
  have nothing := cursor.final_skipSpace
  rw [final] at nothing
  split at nothing
  · exact nothing
  · rename_i found
    rw [stop] at found
    contradiction

theorem firstVisible_of_known (known : ∀ text, .unknown text ∉ cursor.statements) {c : Char}
    (visible : firstVisible cursor.rest = some c) : isNameStart c ∨ c = '/' := by
  cases found : cursor.next? with
  | none =>
    rw [← skipSpace_head?, skipSpace_of_next?_eq_none found] at visible
    contradiction
  | some reading =>
    obtain ⟨statement, behind⟩ := reading
    rw [statements_of_next? found] at known
    obtain ⟨c', visible', start⟩ := next?_start found (by
      rintro text rfl
      exact known text (List.mem_cons_self ..))
    rw [visible] at visible'
    cases visible'
    exact start

/-- Blanks in front of a line feed do not matter. -/
theorem skipSpace_lineFeed {before : Char} {text : List Char} (rest : List Char)
    (blank : (⟨before, text⟩ : Cursor).skipSpace.rest = []) :
    (⟨before, text ++ '\n' :: rest⟩ : Cursor).skipSpace = (⟨'\n', rest⟩ : Cursor).skipSpace := by
  induction text generalizing before with
  | nil => rfl
  | cons c text ih =>
    rw [skipSpace, run, passWhile] at blank
    split_ifs at blank with here
    rw [← ih blank, skipSpace, run, List.cons_append, passWhile, if_pos here]
    rfl

/-- Statements that the reader knows are read the same with a further text behind, and the
statements of that text come behind them. -/
theorem statements_followed {rest : List Char} (fresh : FreshLine ('\n' :: rest))
    (known : ∀ text, .unknown text ∉ cursor.statements) :
    (cursor.followedBy ('\n' :: rest)).statements =
      cursor.statements ++ (⟨'\n', rest⟩ : Cursor).statements := by
  fun_induction statements cursor with
  | case1 cursor stop =>
    have same := skipSpace_lineFeed rest (skipSpace_of_next?_eq_none stop)
    rw [List.nil_append]
    apply statements_congr
    rw [← next?_skipSpace, followedBy, same, next?_skipSpace]
  | case2 cursor statement behind found ih =>
    have knownBehind : ∀ text, .unknown text ∉ behind.statements := fun text member =>
      known text (List.mem_append_right _ member)
    have finished : firstVisible behind.rest ≠ some ',' := by
      intro comma
      rcases firstVisible_of_known knownBehind comma with start | slash <;> contradiction
    have followed := next?_followed fresh found (by
      rintro text rfl
      exact known text (List.mem_cons_self ..)) finished
    rw [statements_of_next? followed, ih knownBehind, List.append_assoc]

end Cursor

/-! ## Sources -/

/-- Behind a line feed the columns are counted anew. -/
theorem expandTabs_lineFeed (column : Nat) (front back : List Char) :
    expandTabs column (front ++ '\n' :: back) =
      expandTabs column front ++ '\n' :: expandTabs 0 back := by
  induction front generalizing column with
  | nil => rfl
  | cons c front ih =>
    rw [List.cons_append, expandTabs, expandTabs]
    split_ifs
    · rw [ih, List.append_assoc]
    · rw [ih, List.cons_append]
    · rw [ih, List.cons_append]

/-- A source that consists of statements and comments, and whose numbers can be read. -/
structure Intelligible (source : String) : Prop where
  known : ∀ text, .unknown text ∉ readStatements source
  short : ∀ statement ∈ readStatements source, ∀ text ∈ statement.numbers, ¬IsLongDecimal text

theorem Intelligible.exists_read {source : String} (intelligible : Intelligible source) :
    ∃ statements, read? source = some statements := exists_read_of_short intelligible.short

/-- A joined source is read as the statements of both parts. -/
theorem readStatements_joined {first second : String}
    (known : ∀ text, .unknown text ∉ readStatements first)
    (secondKnown : ∀ text, .unknown text ∉ readStatements second) :
    readStatements (first ++ "\n" ++ second) = readStatements first ++ readStatements second := by
  have joined : (first ++ "\n" ++ second).toList = first.toList ++ '\n' :: second.toList := by
    simp
  have fresh : FreshLine ('\n' :: expandTabs 0 second.toList) := by
    refine ⟨rfl, fun c visible => ?_⟩
    have blank : Blanks ['\n'] := .cons rfl .nil
    exact Cursor.firstVisible_of_known secondKnown
      ((firstVisible_append blank _).symm.trans visible)
  rw [readStatements, joined, expandTabs_lineFeed]
  exact Cursor.statements_followed fresh known

theorem read?_joined {first second : String} {firsts seconds : List (Statement Int)}
    (known : ∀ text, .unknown text ∉ readStatements first)
    (secondKnown : ∀ text, .unknown text ∉ readStatements second)
    (read : read? first = some firsts) (secondRead : read? second = some seconds) :
    read? (first ++ "\n" ++ second) = some (firsts ++ seconds) := by
  rw [read?] at read secondRead
  rw [read?, readStatements_joined known secondKnown, List.mapM_append, read, secondRead]
  rfl

/-! ## Modules -/

namespace Draft

/-- Statements do not change which module's names are in scope. -/
theorem addStatement_scope {draft next : Draft} {statement : Statement Int}
    (added : draft.addStatement statement = .ok next) : next.scope = draft.scope := by
  have link {base mask : Int} {target : Reference} {next : Draft}
      (added : draft.addLink base mask target = .ok next) : next.scope = draft.scope := by
    obtain ⟨name, _, same⟩ := Outcome.bind_eq_ok.mp added
    cases same
    rfl
  have word {value : Int} {next : Draft} (added : draft.addWord value = .ok next) :
      next.scope = draft.scope := by
    obtain ⟨bytes, _, same⟩ := Outcome.bind_eq_ok.mp added
    cases same
    rfl
  cases statement with
  | label name =>
    rw [addStatement, addLabel] at added
    split_ifs at added
    cases added
    rfl
  | instruction form operands =>
    obtain ⟨encoding, _, added⟩ := Outcome.bind_eq_ok.mp added
    split at added
    · exact link added
    · exact word added
  | bytes values =>
    obtain ⟨bytes, _, same⟩ := Outcome.bind_eq_ok.mp added
    cases same
    rfl
  | word operand =>
    rw [addStatement, addOperand] at added
    split at added
    · exact link added
    · split_ifs at added
      exact word added
  | unknown text => contradiction

theorem addStatements_scope {draft next : Draft} {statements : List (Statement Int)}
    (added : draft.addStatements statements = .ok next) : next.scope = draft.scope := by
  rw [addStatements] at added
  induction statements generalizing draft with
  | nil =>
    cases added
    rfl
  | cons statement statements ih =>
    rw [List.foldlM_cons] at added
    obtain ⟨middle, first, later⟩ := Outcome.bind_eq_ok.mp added
    exact (ih later).trans (addStatement_scope first)

/-- Two modules of one name add what one module with the statements of both adds. -/
theorem addModule_joined {first second joined : String} {firsts seconds : List (Statement Int)}
    (read : read? first = some firsts) (secondRead : read? second = some seconds)
    (joinedRead : read? joined = some (firsts ++ seconds)) (draft : Draft) (name : String) :
    (draft.addModule ⟨name, first⟩ >>= fun next => next.addModule ⟨name, second⟩) =
      draft.addModule ⟨name, joined⟩ := by
  have adds {source : String} {statements : List (Statement Int)}
      (read : read? source = some statements) (draft : Draft) :
      draft.addModule ⟨name, source⟩ =
        { draft with scope := name }.addStatements statements := by
    have reads : (⟨name, source⟩ : SourceModule).statements = .ok statements := by
      rw [SourceModule.statements, read]
    rw [addModule, reads]
    rfl
  rw [adds read, adds joinedRead, addStatements, addStatements, List.foldlM_append]
  cases added : firsts.foldlM addStatement { draft with scope := name } with
  | error failure => rfl
  | ok next =>
    have scope : next.scope = name := addStatements_scope added
    have same : { next with scope := name } = next := by rw [← scope]
    exact (adds secondRead next).trans (congrArg (·.addStatements seconds) same)

end Draft

/-- Two modules in a row that have one name are assembled like one module with the sources of both
joined by a line feed, whatever modules stand in front and behind: the joined source is read as the
statements of both, and the program or the error is the same. -/
theorem joined_by_lineFeed {first second : String} (intelligible : Intelligible first)
    (secondIntelligible : Intelligible second) :
    (readStatements (first ++ "\n" ++ second) = readStatements first ++ readStatements second ∧
      ∃ firsts seconds, read? first = some firsts ∧ read? second = some seconds ∧
        read? (first ++ "\n" ++ second) = some (firsts ++ seconds)) ∧
    ∀ (name : String) (before after : List SourceModule),
      assemble (before ++ [⟨name, first⟩, ⟨name, second⟩] ++ after) =
        assemble (before ++ [⟨name, first ++ "\n" ++ second⟩] ++ after) := by
  obtain ⟨firsts, read⟩ := intelligible.exists_read
  obtain ⟨seconds, secondRead⟩ := secondIntelligible.exists_read
  have joinedRead := read?_joined intelligible.known secondIntelligible.known read secondRead
  refine ⟨⟨readStatements_joined intelligible.known secondIntelligible.known,
    firsts, seconds, read, secondRead, joinedRead⟩, ?_⟩
  intro name before after
  have drafts : draft (before ++ [⟨name, first⟩, ⟨name, second⟩] ++ after) =
      draft (before ++ [⟨name, first ++ "\n" ++ second⟩] ++ after) := by
    have both (start : Draft) :
        [SourceModule.mk name first, ⟨name, second⟩].foldlM Draft.addModule start =
          [SourceModule.mk name (first ++ "\n" ++ second)].foldlM Draft.addModule start := by
      have joined := Draft.addModule_joined read secondRead joinedRead start name
      simp only [List.foldlM_cons, List.foldlM_nil, bind_pure]
      exact joined
    simp only [draft, List.foldlM_append, both]
  rw [assemble, assemble, drafts]

/-- A source that ends with an instruction behind which a second register could come. -/
def shiftAtEnd : String := "tick: DB 1\n\tshr v0"

/-- A source that starts with a label that is named like a register. -/
def labelAtStart : String := "v1: jp &tick // v2"

theorem readStatements_shiftAtEnd :
    readStatements shiftAtEnd =
      [.label "tick", .bytes [['1']], .instruction .shr [.register 0]] := by
  simp only [readStatements, Cursor.statements_eq (Nat.le_refl _)]
  decide +kernel

theorem readStatements_labelAtStart :
    readStatements labelAtStart =
      [.label "v1", .instruction .jp [.reference ⟨["tick"]⟩]] := by
  simp only [readStatements, Cursor.statements_eq (Nat.le_refl _)]
  decide +kernel

theorem shiftAtEnd_joined :
    Intelligible shiftAtEnd ∧ Intelligible labelAtStart ∧
      assemble [⟨"main", shiftAtEnd⟩, ⟨"main", labelAtStart⟩] =
        assemble [⟨"main", shiftAtEnd ++ "\n" ++ labelAtStart⟩] := by
  have first : Intelligible shiftAtEnd := by
    constructor <;> rw [readStatements_shiftAtEnd]
    · simp
    · decide +kernel
  have second : Intelligible labelAtStart := by
    constructor <;> rw [readStatements_labelAtStart]
    · simp
    · decide +kernel
  exact ⟨first, second, (joined_by_lineFeed first second).2 "main" [] []⟩

end Chip8.Assembly
