import Mathlib.Data.List.Nodup
import Chip8.Toml.Document
import Chip8.Proofs.Lookup
import Chip8.Proofs.Outcome

/-! # Names that occur once

Every table of a document has each of its names once, however deep it lies. Each way to change
entries keeps this, so each statement does, and so does the whole text (`distinct_of_readDocument`).
-/

namespace Chip8.Toml

/-- A value in which no table has a name twice. -/
inductive Value.Distinct : Value → Prop where
  | plain {value : Value} (plain : value.holdsValues = false) : Distinct value
  | list {items : List Value} (each : ∀ item ∈ items, Distinct item) : Distinct (.list items)
  | table {entries : Entries} (names : (entries.map Prod.fst).Nodup)
    (each : ∀ entry ∈ entries, Distinct entry.2) : Distinct (.table entries)

/-- Entries of a table without a name twice, whose values are of this kind too. -/
structure Entries.Distinct (entries : Entries) : Prop where
  names : (entries.map Prod.fst).Nodup
  values : ∀ entry ∈ entries, entry.2.Distinct

theorem Value.Distinct.entries {entries : Entries} (table : (Value.table entries).Distinct) :
    entries.Distinct := by
  cases table with
  | plain plain => cases plain
  | table names each => exact ⟨names, each⟩

theorem Value.Distinct.items {items : List Value} (list : (Value.list items).Distinct) :
    ∀ item ∈ items, item.Distinct := by
  cases list with
  | plain plain => cases plain
  | list each => exact each

theorem Entries.Distinct.table {entries : Entries} (distinct : entries.Distinct) :
    (Value.table entries).Distinct :=
  .table distinct.names distinct.values

namespace Entries

variable {entries after : Entries} {name : String} {value : Value}

theorem distinct_nil : Distinct [] := ⟨List.nodup_nil, List.forall_mem_nil _⟩

theorem mem_of_find? (found : entries.find? name = some value) : (name, value) ∈ entries :=
  Lookup.mem_of_find? found

theorem find?_eq_none_iff : entries.find? name = none ↔ name ∉ entries.map Prod.fst :=
  Lookup.find?_eq_none_iff

theorem find?_eq_some_iff (names : (entries.map Prod.fst).Nodup) :
    entries.find? name = some value ↔ (name, value) ∈ entries :=
  Lookup.find?_eq_some_iff names

/-- The order of a table does not matter to what is found in it. -/
theorem find?_of_perm {other : Entries} (names : (entries.map Prod.fst).Nodup)
    (moved : other.Perm entries) (name : String) : other.find? name = entries.find? name := by
  have names' : (other.map Prod.fst).Nodup := (moved.map Prod.fst).nodup_iff.mpr names
  ext value
  rw [find?_eq_some_iff names', find?_eq_some_iff names, moved.mem_iff]

/-- Putting a value under a name keeps the names of a table apart. -/
theorem Distinct.put (distinct : entries.Distinct) (inner : value.Distinct) :
    (entries.put name value).Distinct := by
  unfold Entries.put
  split
  · refine ⟨?_, ?_⟩
    · have kept : (Prod.fst ∘ fun entry : String × Value =>
          if entry.1 == name then (name, value) else entry) = Prod.fst := by
        funext entry
        by_cases here : entry.1 = name <;> simp [here]
      rw [List.map_map, kept]
      exact distinct.names
    · intro entry member
      obtain ⟨old, listed, rfl⟩ := List.mem_map.mp member
      split
      · exact inner
      · exact distinct.values old listed
  · rename_i missing
    have fresh : name ∉ entries.map Prod.fst := by
      rw [← find?_eq_none_iff]
      simpa using missing
    refine ⟨?_, ?_⟩
    · rw [List.map_append, List.map_singleton]
      exact List.Nodup.append distinct.names (List.nodup_singleton _) (by simpa using fresh)
    · intro entry member
      rcases List.mem_append.mp member with old | new
      · exact distinct.values entry old
      · obtain rfl := List.mem_singleton.mp new
        exact inner

/-- Changing a table somewhere in others keeps all names apart if the change does. -/
theorem Distinct.modifyAt? {throughLists : Bool} {change : Entries → Except Defect Entries}
    (keeps : ∀ inner changed : Entries, inner.Distinct → change inner = .ok changed →
      changed.Distinct)
    {path : Path} (distinct : entries.Distinct)
    (modified : entries.modifyAt? throughLists change path = .ok after) : after.Distinct := by
  induction path generalizing entries after with
  | nil => exact keeps _ _ distinct modified
  | cons name path ih =>
    rw [Entries.modifyAt?] at modified
    dsimp only at modified
    split at modified
    · obtain ⟨inner, changed, rfl⟩ := Outcome.map_eq_ok.mp modified
      exact distinct.put (ih distinct_nil changed).table
    · rename_i found
      obtain ⟨inner, changed, rfl⟩ := Outcome.map_eq_ok.mp modified
      exact distinct.put (ih (distinct.values _ (mem_of_find? found)).entries changed).table
    · rename_i items found
      have each := (distinct.values _ (mem_of_find? found)).items
      split at modified
      · rename_i last
        obtain ⟨inner, changed, rfl⟩ := Outcome.map_eq_ok.mp modified
        have item := ih (each _ (List.mem_of_getLast? last)).entries changed
        refine distinct.put (.list fun entry member => ?_)
        rcases List.mem_append.mp member with old | new
        · exact each entry (List.dropLast_subset items old)
        · obtain rfl := List.mem_singleton.mp new
          exact item.table
      · cases modified
    · cases modified

end Entries

/-! ## Values -/

/-- An attempt to read a value that holds no others. -/
def Plain (reading : Option (Except Error (Value × List Char))) : Prop :=
  ∀ value behind, reading = some (.ok (value, behind)) → value.holdsValues = false

theorem Plain.orElse {first second : Option (Except Error (Value × List Char))}
    (one : Plain first) (other : Plain second) : Plain (first <|> second) := by
  cases first with
  | none => simpa using other
  | some reading => simpa using one

theorem Plain.ite {condition : Prop} [Decidable condition]
    {first second : Option (Except Error (Value × List Char))}
    (one : Plain first) (other : Plain second) : Plain (if condition then first else second) := by
  split
  · exact one
  · exact other

theorem plain_text? (cs : List Char) : Plain (text? cs) := by
  intro value behind read
  obtain ⟨reading, _, same⟩ := Option.map_eq_some_iff.mp read
  obtain ⟨_, _, same⟩ := Outcome.map_eq_ok.mp same
  cases same
  rfl

theorem plain_truth? (cs : List Char) : Plain ((truth? cs).map .ok) := by
  intro value behind read
  unfold truth? at read
  split at read <;> cases read <;> rfl

theorem plain_moment? (cs : List Char) : Plain (moment? cs) := by
  intro value behind read
  unfold moment? at read
  split at read
  · split at read
    · split at read <;> cases read <;> rfl
    · cases read
  · obtain ⟨_, _, same⟩ := Option.map_eq_some_iff.mp read
    cases same
    rfl

theorem plain_markedInteger? (cs : List Char) : Plain ((markedInteger? cs).map .ok) := by
  intro value behind read
  obtain ⟨_, read, same⟩ := Option.map_eq_some_iff.mp read
  cases same
  unfold markedInteger? at read
  dsimp only at read
  split at read
  case h_4 => cases read
  all_goals
    obtain ⟨_, _, same⟩ := Option.map_eq_some_iff.mp read
    cases same
    rfl

theorem plain_decimalNumber? (cs : List Char) : Plain (decimalNumber? cs) := by
  unfold decimalNumber?
  dsimp only
  refine .ite nofun (.ite ?_ ?_) <;> intro value behind read
  · generalize Text.readInteger? 10 _ = number at read
    cases number <;> cases read
    rfl
  · obtain ⟨_, _, same⟩ := Option.map_eq_some_iff.mp read
    cases same
    rfl

theorem plain_specialNumber? (cs : List Char) : Plain ((specialNumber? cs).map .ok) := by
  intro value behind read
  unfold specialNumber? at read
  split at read <;> cases read <;> rfl

variable {cs behind : List Char}

theorem distinct_of_scalar {value : Value} (read : scalar cs = .ok (value, behind)) :
    value.Distinct := by
  have plain := (plain_text? cs).orElse <| (plain_truth? cs).orElse <| (plain_moment? cs).orElse <|
    (plain_markedInteger? cs).orElse <| (plain_decimalNumber? cs).orElse (plain_specialNumber? cs)
  refine .plain (plain value behind ?_)
  unfold scalar at read
  dsimp only at read
  cases reading : text? cs <|> (truth? cs).map .ok <|> moment? cs <|>
    (markedInteger? cs).map .ok <|> decimalNumber? cs <|> (specialNumber? cs).map .ok with
  | none =>
    rw [reading] at read
    cases read
  | some result =>
    rw [reading] at read
    rw [← read]
    rfl

theorem distinct_of_addInline {entries after : Entries} {path : Path} {value : Value}
    (distinct : entries.Distinct) (inner : value.Distinct)
    (added : addInline entries path value = .ok after) : after.Distinct := by
  refine distinct.modifyAt? (fun table changed kept change => ?_) added
  split at change
  · cases change
  · cases change
    exact kept.put inner

/-- What the readers of values keep as long as they stay within a bound. -/
structure ReadsDistinct (bound : Nat) : Prop where
  value {room : Nat} {cs behind : List Char} {read : Value} :
    Toml.value bound room cs = .ok (read, behind) → read.Distinct
  items {room : Nat} {cs behind : List Char} {read : List Value} :
    Toml.items bound room cs = .ok (read, behind) → ∀ item ∈ read, item.Distinct
  inlineEntries {room : Nat} {before after : Entries} {frozen : List Path} {cs behind : List Char} :
    before.Distinct → Toml.inlineEntries bound room before frozen cs = .ok (after, behind) →
      after.Distinct

section steps

variable {bound room : Nat} {cs behind : List Char} (within : ReadsDistinct bound)

include within

theorem distinct_of_value {read : Value}
    (went : Toml.value (bound + 1) room cs = .ok (read, behind)) : read.Distinct := by
  rw [Toml.value.eq_def] at went
  dsimp only at went
  split at went
  · split at went
    · cases went
    · obtain ⟨⟨list, rest⟩, inner, same⟩ := Outcome.map_eq_ok.mp went
      cases same
      exact .list (within.items inner)
  · split at went
    · cases went
      exact Entries.distinct_nil.table
    · split at went
      · cases went
      · obtain ⟨⟨entries, rest⟩, inner, same⟩ := Outcome.map_eq_ok.mp went
        cases same
        exact (within.inlineEntries Entries.distinct_nil inner).table
  · exact distinct_of_scalar went

theorem distinct_of_items {read : List Value}
    (went : Toml.items (bound + 1) room cs = .ok (read, behind)) :
    ∀ item ∈ read, item.Distinct := by
  rw [Toml.items.eq_def] at went
  dsimp only at went
  obtain ⟨inner, _, went⟩ := Outcome.bind_eq_ok.mp went
  split at went
  · cases went
    exact List.forall_mem_nil _
  · obtain ⟨⟨item, rest⟩, first, went⟩ := Outcome.bind_eq_ok.mp went
    obtain ⟨further, _, went⟩ := Outcome.bind_eq_ok.mp went
    dsimp only at went
    split at went
    · cases went
      exact List.forall_mem_singleton.mpr (within.value first)
    · obtain ⟨⟨later, behind⟩, others, went⟩ := Outcome.bind_eq_ok.mp went
      cases went
      exact List.forall_mem_cons.mpr ⟨within.value first, within.items others⟩
    · cases went

theorem distinct_of_inlineEntries {before after : Entries} {frozen : List Path}
    (distinct : before.Distinct)
    (went : Toml.inlineEntries (bound + 1) room before frozen cs = .ok (after, behind)) :
    after.Distinct := by
  rw [Toml.inlineEntries.eq_def] at went
  dsimp only at went
  obtain ⟨⟨path, rest⟩, _, went⟩ := Outcome.bind_eq_ok.mp went
  obtain ⟨⟨entry, rest⟩, first, went⟩ := Outcome.bind_eq_ok.mp went
  dsimp only at went
  split at went
  · cases went
  · obtain ⟨added, here, went⟩ := Outcome.bind_eq_ok.mp went
    have more := distinct_of_addInline distinct (within.value first)
      (Outcome.mapError_eq_ok.mp here)
    split at went
    · cases went
      exact more
    · exact within.inlineEntries more went
    · cases went

end steps

/-- Each reader of values calls the others with a smaller bound. -/
theorem readsDistinct (bound : Nat) : ReadsDistinct bound := by
  induction bound with
  | zero =>
    refine ⟨fun read => ?_, fun read => ?_, fun _ read => ?_⟩
    · cases read
    · cases read
    · cases read
  | succ bound ih =>
    exact ⟨distinct_of_value ih, distinct_of_items ih, distinct_of_inlineEntries ih⟩

/-! ## Statements -/

namespace Outline

variable {outline after : Outline} {path : Path}

theorem distinct_of_openTable (distinct : outline.entries.Distinct)
    (opened : outline.openTable path = .ok after) : after.entries.Distinct := by
  unfold openTable at opened
  split at opened
  · cases opened
  · obtain ⟨entries, modified, rfl⟩ := Outcome.map_eq_ok.mp opened
    refine distinct.modifyAt? (fun inner changed kept same => ?_) modified
    cases same
    exact kept

theorem distinct_of_appendTable {name : String} {entries changed : Entries}
    (distinct : entries.Distinct) (appended : appendTable name entries = .ok changed) :
    changed.Distinct := by
  have fresh : (Value.table []).Distinct := Entries.distinct_nil.table
  unfold appendTable at appended
  split at appended
  · cases appended
    exact distinct.put (.list (List.forall_mem_singleton.mpr fresh))
  · rename_i items found
    cases appended
    have each := (distinct.values _ (Entries.mem_of_find? found)).items
    refine distinct.put (.list fun item member => ?_)
    rcases List.mem_append.mp member with old | new
    · exact each item old
    · exact List.mem_singleton.mp new ▸ fresh
  · cases appended

theorem distinct_of_openItem (distinct : outline.entries.Distinct)
    (opened : outline.openItem path = .ok after) : after.entries.Distinct := by
  unfold openItem at opened
  split at opened
  · cases opened
  · obtain ⟨entries, modified, rfl⟩ := Outcome.map_eq_ok.mp opened
    exact distinct.modifyAt? (fun _ _ kept changed => distinct_of_appendTable kept changed) modified

theorem distinct_of_addEntry {value : Value} (distinct : outline.entries.Distinct)
    (inner : value.Distinct) (added : outline.addEntry path value = .ok after) :
    after.entries.Distinct := by
  unfold addEntry at added
  dsimp only at added
  split at added
  · cases added
  · split at added
    · cases added
    · obtain ⟨entries, modified, rfl⟩ := Outcome.map_eq_ok.mp added
      refine distinct.modifyAt? (fun table changed kept change => ?_) modified
      split at change
      · cases change
      · cases change
        exact kept.put inner

end Outline

section statements

variable {outline after : Outline} (distinct : outline.entries.Distinct)

include distinct

theorem distinct_of_tableHeader (read : tableHeader outline cs = .ok (after, behind)) :
    after.entries.Distinct := by
  obtain ⟨⟨path, rest⟩, _, read⟩ := Outcome.bind_eq_ok.mp read
  obtain ⟨opened, here, read⟩ := Outcome.bind_eq_ok.mp read
  split at read
  · cases read
    exact Outline.distinct_of_openTable distinct (Outcome.mapError_eq_ok.mp here)
  · cases read

theorem distinct_of_itemHeader (read : itemHeader outline cs = .ok (after, behind)) :
    after.entries.Distinct := by
  obtain ⟨⟨path, rest⟩, _, read⟩ := Outcome.bind_eq_ok.mp read
  obtain ⟨opened, here, read⟩ := Outcome.bind_eq_ok.mp read
  split at read
  · cases read
    exact Outline.distinct_of_openItem distinct (Outcome.mapError_eq_ok.mp here)
  · cases read

theorem distinct_of_entry (read : entry outline cs = .ok (after, behind)) :
    after.entries.Distinct := by
  obtain ⟨⟨path, rest⟩, _, read⟩ := Outcome.bind_eq_ok.mp read
  obtain ⟨⟨value, rest⟩, inner, read⟩ := Outcome.bind_eq_ok.mp read
  obtain ⟨added, here, read⟩ := Outcome.bind_eq_ok.mp read
  cases read
  exact Outline.distinct_of_addEntry distinct ((readsDistinct _).value inner)
    (Outcome.mapError_eq_ok.mp here)

/-- What a statement adds keeps all names apart. -/
theorem distinct_of_statement (read : statement outline cs = .ok (after, behind)) :
    after.entries.Distinct := by
  have settled : outline.settled.entries.Distinct := distinct
  unfold statement at read
  split at read
  · exact distinct_of_itemHeader settled read
  · exact distinct_of_tableHeader settled read
  · cases read
    exact distinct
  · split at read
    · exact distinct_of_entry distinct read
    · cases read

/-- No statement of a text brings a name into a table twice. -/
theorem distinct_of_statements {bound : Nat} (read : statements bound outline cs = .ok after) :
    after.entries.Distinct := by
  induction bound generalizing outline cs with
  | zero => cases read
  | succ bound ih =>
    unfold statements at read
    split at read
    · cases read
      exact distinct
    · exact ih distinct read
    · obtain ⟨⟨between, rest⟩, here, read⟩ := Outcome.bind_eq_ok.mp read
      obtain ⟨further, _, read⟩ := Outcome.bind_eq_ok.mp read
      have kept := distinct_of_statement distinct here
      split at read
      · cases read
        exact kept
      · exact ih kept read
      · cases read

end statements

/-- A document has each of its names once, and so has every table in it. -/
theorem distinct_of_readDocument {text : List Char} {entries : Entries}
    (read : readDocument text = .ok entries) : entries.Distinct := by
  obtain ⟨outline, built, rfl⟩ := Outcome.map_eq_ok.mp read
  have empty : Outline.empty.entries.Distinct := Entries.distinct_nil
  exact distinct_of_statements empty built

end Chip8.Toml
