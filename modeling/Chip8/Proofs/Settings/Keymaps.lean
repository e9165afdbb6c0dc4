import Mathlib.Data.Nat.Digits.Lemmas
import Chip8.Proofs.Keypad
import Chip8.Proofs.Settings.Named

/-! # Keymaps of documents

A keymap that a document gives maps names to keys of the keypad and nothing else, and it is the
standard one or the whole table of the document (`keymap_ofDocument`). A number that belongs to no
key keeps the document from giving settings at all, and the first such entry is the one that is told
(`ofDocument_outside`); its number is told as long as it can be written.
-/

namespace Chip8

/-! ## Numbers that can be written -/

namespace Text

/-- A number can be written unless it has more decimal digits than are allowed. -/
theorem isTooLong_iff (number : Int) :
    isTooLong number = true ↔ 10 ^ maxDecimalDigits ≤ number.natAbs := by
  have room : 10 ^ maxDecimalDigits ≤ 2 ^ tooManyBits := by decide +kernel
  have written {limit : Nat} (some : 0 < limit) :
      limit < (Nat.toDigits 10 number.natAbs).length ↔ 10 ^ limit ≤ number.natAbs := by
    rw [← not_le, Nat.length_toDigits_le_iff (by decide) some, not_lt]
  have reached {count : Nat} (nonzero : number.natAbs ≠ 0) (bits : count ≤ number.natAbs.log2) :
      2 ^ count ≤ number.natAbs := (Nat.le_log2 nonzero).mp bits
  rw [isTooLong, Bool.or_eq_true, decide_eq_true_iff, decide_eq_true_iff, written (by decide)]
  constructor
  · rintro (bits | long)
    · have nonzero : number.natAbs ≠ 0 := by
        intro zero
        rw [zero] at bits
        exact absurd bits (by decide)
      exact room.trans (reached nonzero bits)
    · exact long
  · exact Or.inr

end Text

namespace Keymap

/-! ## Entries -/

/-- All numbers of a keymap belong to keys of the keypad. -/
def OnKeypad (keymap : Keymap) : Prop := ∀ entry ∈ keymap, ∃ key : Key, entry.2 = key.val

theorem onKeypad_standard : standard.OnKeypad := by
  unfold OnKeypad
  decide

/-- What is told of an entry whose number belongs to no key. -/
def refusal (name : String) (number : Int) : SettingsError :=
  if Text.isTooLong number then .keyTooLong else .keyOutsideKeypad name number

theorem message_refusal (name : String) {number : Int}
    (short : number.natAbs < 10 ^ Text.maxDecimalDigits) :
    (refusal name number).message = s!"Key {name} maps outside the keypad: {number}" := by
  have writable : ¬Text.isTooLong number := by rwa [Text.isTooLong_iff, not_le]
  rw [refusal, if_neg writable]
  rfl

theorem message_refusal_of_long (name : String) {number : Int}
    (long : 10 ^ Text.maxDecimalDigits ≤ number.natAbs) :
    (refusal name number).message = Text.tooLongText := by
  rw [refusal, if_pos ((Text.isTooLong_iff number).mpr long)]
  rfl

/-- A number that cannot be written is not told in this way either. -/
theorem tooLongText_ne (name : String) (number : Int) :
    Text.tooLongText ≠ s!"Key {name} maps outside the keypad: {number}" := by
  have left : Text.tooLongText.toList.head? = some 'E' := by decide +kernel
  have right : (s!"Key {name} maps outside the keypad: {number}").toList.head? = some 'K' := by
    simp only [String.toList_append]
    rfl
  intro same
  rw [same, right] at left
  contradiction

variable {entry : String × Toml.Value} {number : Int}

theorem addressed_of_key (key : Key) (reads : numberOf entry.2 = .ok key.val) :
    addressed entry = .ok (entry.1, key.val) := by
  rw [addressed, reads]
  simp only [bind, Except.bind, key.ofNumber?_val, Option.isSome_some, if_true]

theorem addressed_outside (reads : numberOf entry.2 = .ok number)
    (outside : ¬(0 ≤ number ∧ number < 16)) :
    addressed entry = .error (refusal entry.1 number) := by
  have none : ¬(Key.ofNumber? number).isSome := by rwa [Key.ofNumber?_isSome]
  rw [addressed, reads, refusal]
  simp only [bind, Except.bind, if_neg none]
  split <;> rfl

/-- An entry is taken over exactly when its number belongs to a key. -/
theorem addressed_eq_ok {mapped : String × Int} :
    addressed entry = .ok mapped ↔
      mapped.1 = entry.1 ∧ numberOf entry.2 = .ok mapped.2 ∧ ∃ key : Key, mapped.2 = key.val := by
  constructor
  · intro taken
    cases reads : numberOf entry.2 with
    | error failure =>
      rw [addressed, reads] at taken
      contradiction
    | ok number =>
      by_cases inside : 0 ≤ number ∧ number < 16
      · obtain ⟨key, rfl⟩ := Key.exists_eq_val inside
        rw [addressed_of_key key reads] at taken
        cases taken
        exact ⟨rfl, rfl, key, rfl⟩
      · rw [addressed_outside reads inside] at taken
        contradiction
  · obtain ⟨name, number⟩ := mapped
    rintro ⟨rfl, reads, key, rfl⟩
    exact addressed_of_key key reads

/-- A keymap has the names of its table and the numbers that the table gives them. -/
def Maps (entries : Toml.Entries) (keymap : Keymap) : Prop :=
  List.Forall₂ (fun entry mapped => mapped.1 = entry.1 ∧ numberOf entry.2 = .ok mapped.2)
    entries keymap

theorem ofEntries_eq_ok {entries : Toml.Entries} {keymap : Keymap} :
    ofEntries entries = .ok keymap ↔ Maps entries keymap ∧ keymap.OnKeypad := by
  rw [ofEntries, Outcome.mapM_eq_ok, Maps, OnKeypad]
  constructor
  · intro pairs
    induction pairs with
    | nil => exact ⟨.nil, fun _ member => absurd member List.not_mem_nil⟩
    | cons here _ ih =>
      obtain ⟨name, reads, key⟩ := addressed_eq_ok.mp here
      exact ⟨.cons ⟨name, reads⟩ ih.1, List.forall_mem_cons.mpr ⟨key, ih.2⟩⟩
  · rintro ⟨pairs, keys⟩
    induction pairs with
    | nil => exact .nil
    | cons here _ ih =>
      obtain ⟨key, later⟩ := List.forall_mem_cons.mp keys
      exact .cons (addressed_eq_ok.mpr ⟨here.1, here.2, key⟩) (ih later)

theorem ofEntries_outside {front back : Toml.Entries}
    (through : ∀ earlier ∈ front, ∃ key : Key, numberOf earlier.2 = .ok key.val)
    (reads : numberOf entry.2 = .ok number) (outside : ¬(0 ≤ number ∧ number < 16)) :
    ofEntries (front ++ entry :: back) = .error (refusal entry.1 number) := by
  apply Outcome.mapM_of_first_error _ (addressed_outside reads outside)
  intro earlier member
  obtain ⟨key, reads⟩ := through earlier member
  exact ⟨_, addressed_of_key key reads⟩

end Keymap

/-! ## Documents -/

namespace Settings

variable {document : Toml.Entries} {content : List UInt8} {settings : Settings}

theorem ofFile_eq_ok : ofFile content = .ok settings ↔
    ∃ document, readDocument content = .ok document ∧ ofDocument document = .ok settings :=
  Outcome.bind_eq_ok

/-- The settings of a document are those of its table of settings, with the keymap of its table of
keys if there is one. -/
theorem ofDocument_eq_ok : ofDocument document = .ok settings ↔
    ∃ table given, table? document "emulator" = .ok table ∧
      ofEntries (table.getD []) = .ok given ∧
      ((table? document "keys" = .ok none ∧ settings = given) ∨
        ∃ keys keymap, table? document "keys" = .ok (some keys) ∧
          Keymap.ofEntries keys = .ok keymap ∧ settings = { given with keymap := keymap }) := by
  unfold ofDocument
  constructor
  · intro went
    obtain ⟨table, found, went⟩ := Outcome.bind_eq_ok.mp went
    obtain ⟨given, read, went⟩ := Outcome.bind_eq_ok.mp went
    obtain ⟨keys, named, went⟩ := Outcome.bind_eq_ok.mp went
    refine ⟨table, given, found, read, ?_⟩
    cases keys with
    | none =>
      cases went
      exact .inl ⟨named, rfl⟩
    | some keys =>
      obtain ⟨keymap, mapped, same⟩ := Outcome.bind_eq_ok.mp went
      cases same
      exact .inr ⟨keys, keymap, named, mapped, rfl⟩
  · rintro ⟨table, given, found, read, ⟨named, rfl⟩ | ⟨keys, keymap, named, mapped, rfl⟩⟩
    · refine Outcome.bind_eq_ok.mpr ⟨_, found, Outcome.bind_eq_ok.mpr ⟨_, read, ?_⟩⟩
      exact Outcome.bind_eq_ok.mpr ⟨_, named, rfl⟩
    · refine Outcome.bind_eq_ok.mpr ⟨_, found, Outcome.bind_eq_ok.mpr ⟨_, read, ?_⟩⟩
      refine Outcome.bind_eq_ok.mpr ⟨_, named, Outcome.bind_eq_ok.mpr ⟨_, mapped, rfl⟩⟩

/-- A document that gives settings gives the standard keymap or its whole table of keys, and every
number in it belongs to a key. -/
theorem keymap_ofDocument (gives : ofDocument document = .ok settings) :
    settings.keymap.OnKeypad ∧
      ((table? document "keys" = .ok none ∧ settings.keymap = .standard) ∨
        ∃ keys, table? document "keys" = .ok (some keys) ∧ Keymap.Maps keys settings.keymap) := by
  obtain ⟨table, given, _, read, keymap⟩ := ofDocument_eq_ok.mp gives
  rcases keymap with ⟨named, rfl⟩ | ⟨keys, keymap, named, mapped, rfl⟩
  · have same : settings.keymap = .standard := keymap_of_foldlM read
    exact ⟨same ▸ Keymap.onKeypad_standard, .inl ⟨named, same⟩⟩
  · obtain ⟨maps, keys'⟩ := Keymap.ofEntries_eq_ok.mp mapped
    exact ⟨keys', .inr ⟨keys, named, maps⟩⟩

section outside

variable {keys front back : Toml.Entries} {entry : String × Toml.Value} {number : Int}
  (reads : Keymap.numberOf entry.2 = .ok number) (outside : ¬(0 ≤ number ∧ number < 16))

include reads outside

/-- A document with an entry whose number belongs to no key gives no settings. -/
theorem ofDocument_ne_ok (named : table? document "keys" = .ok (some keys)) (member : entry ∈ keys)
    (settings : Settings) : ofDocument document ≠ .ok settings := by
  intro gives
  obtain ⟨_, _, _, _, ⟨missing, _⟩ | ⟨others, keymap, found, mapped, _⟩⟩ :=
    ofDocument_eq_ok.mp gives
  · rw [named] at missing
    cases missing
  · rw [named] at found
    cases found
    obtain ⟨_, taken⟩ := Outcome.ok_of_mapM_eq_ok mapped member
    rw [Keymap.addressed_outside reads outside] at taken
    contradiction

/-- The first entry whose number belongs to no key is told, if nothing in front of it is faulty. -/
theorem ofDocument_outside {table : Option Toml.Entries}
    (found : table? document "emulator" = .ok table)
    (readable : ∀ setting ∈ table.getD [], Setting.Readable setting)
    (named : table? document "keys" = .ok (some (front ++ entry :: back)))
    (through : ∀ earlier ∈ front, ∃ key : Key, Keymap.numberOf earlier.2 = .ok key.val) :
    ofDocument document = .error (Keymap.refusal entry.1 number) := by
  obtain ⟨given, read⟩ := (exists_foldlM_addEntry standard _).mpr readable
  have refused : Keymap.ofEntries (front ++ entry :: back) = _ :=
    Keymap.ofEntries_outside through reads outside
  rw [ofDocument, found]
  change (ofEntries (table.getD []) >>= _) = _
  rw [ofEntries, read, named]
  change (Keymap.ofEntries (front ++ entry :: back) >>= _) = _
  rw [refused]
  rfl

end outside

end Settings

end Chip8
