import Chip8.Settings
import Chip8.Proofs.Outcome

/-! # Settings by their names

The settings that a table may give, each with the name that it has there, the values that it may
have and the reading of a value. An entry of a known name replaces the setting of that name and
touches no other; an entry of an unknown name touches none (`addEntry_known`, `addEntry_unknown`).
So a table in which no name occurs twice gives every setting that it names the value of its entry,
in whichever order the entries stand (`get_of_foldlM`).
-/

namespace Chip8

/-- A setting that a table may give. -/
inductive SettingName where
  | rate
  | scale
  | fps
  | wrap
  | seed
  | onColor
  | offColor
  | toneHz
  | volume
deriving DecidableEq, Repr

namespace SettingName

def text : SettingName → String
  | .rate => "cycles_per_second"
  | .scale => "scale"
  | .fps => "fps"
  | .wrap => "wrap"
  | .seed => "seed"
  | .onColor => "on_color"
  | .offColor => "off_color"
  | .toneHz => "tone_hz"
  | .volume => "volume"

def Value : SettingName → Type
  | .rate | .toneHz | .volume => Float
  | .scale | .fps => Int
  | .wrap => Bool
  | .seed => Option Int
  | .onColor | .offColor => Color

def read (value : Toml.Value) : (name : SettingName) → Except SettingsError name.Value
  | .rate | .toneHz | .volume => value.toReal
  | .scale | .fps => value.toInteger
  | .wrap => .ok value.toTruth
  | .seed => value.toInteger.map some
  | .onColor | .offColor => Color.ofValue value

theorem text_injective {name other : SettingName} (same : name.text = other.text) :
    name = other := by
  revert same
  cases name <;> cases other <;> decide

end SettingName

/-- An entry of a table whose value can be read as the setting of its name, if there is one. -/
def Setting.Readable (entry : String × Toml.Value) : Prop :=
  ∀ name : SettingName, name.text = entry.1 → ∃ value, name.read entry.2 = .ok value

namespace Settings

def get (settings : Settings) : (name : SettingName) → name.Value
  | .rate => settings.rate
  | .scale => settings.scale
  | .fps => settings.fps
  | .wrap => settings.wrap
  | .seed => settings.seed
  | .onColor => settings.onColor
  | .offColor => settings.offColor
  | .toneHz => settings.toneHz
  | .volume => settings.volume

def set (settings : Settings) : (name : SettingName) → name.Value → Settings
  | .rate, value => { settings with rate := value }
  | .scale, value => { settings with scale := value }
  | .fps, value => { settings with fps := value }
  | .wrap, value => { settings with wrap := value }
  | .seed, value => { settings with seed := value }
  | .onColor, value => { settings with onColor := value }
  | .offColor, value => { settings with offColor := value }
  | .toneHz, value => { settings with toneHz := value }
  | .volume, value => { settings with volume := value }

variable {settings other start : Settings} {entries : Toml.Entries}

/-- Settings that agree by their names and in their keymaps are the same. -/
theorem ext_get (same : ∀ name, settings.get name = other.get name)
    (keymap : settings.keymap = other.keymap) : settings = other := by
  obtain ⟨rate, scale, fps, wrap, seed, onColor, offColor, toneHz, volume, keys⟩ := settings
  obtain ⟨rate', scale', fps', wrap', seed', onColor', offColor', toneHz', volume', keys'⟩ := other
  cases same .rate
  cases same .scale
  cases same .fps
  cases same .wrap
  cases same .seed
  cases same .onColor
  cases same .offColor
  cases same .toneHz
  cases same .volume
  cases keymap
  rfl

@[simp]
theorem get_set_self (settings : Settings) (name : SettingName) (value : name.Value) :
    (settings.set name value).get name = value := by
  cases name <;> rfl

theorem get_set_of_ne (settings : Settings) {name other : SettingName} (value : name.Value)
    (apart : other ≠ name) : (settings.set name value).get other = settings.get other := by
  cases name <;> cases other <;> first | rfl | contradiction

@[simp]
theorem keymap_set (settings : Settings) (name : SettingName) (value : name.Value) :
    (settings.set name value).keymap = settings.keymap := by
  cases name <;> rfl

/-! ## Single entries -/

theorem addEntry_known (settings : Settings) (name : SettingName) (value : Toml.Value) :
    settings.addEntry (name.text, value) = (name.read value).map (settings.set name) := by
  cases name with
  | wrap => rfl
  | rate | toneHz | volume =>
    simp only [addEntry, SettingName.text, Setting.ofEntry?, SettingName.read]
    cases value.toReal <;> rfl
  | scale | fps | seed =>
    simp only [addEntry, SettingName.text, Setting.ofEntry?, SettingName.read]
    cases value.toInteger <;> rfl
  | onColor | offColor =>
    simp only [addEntry, SettingName.text, Setting.ofEntry?, SettingName.read]
    cases Color.ofValue value <;> rfl

theorem addEntry_unknown (settings : Settings) {entry : String × Toml.Value}
    (unknown : ∀ name : SettingName, name.text ≠ entry.1) :
    settings.addEntry entry = .ok settings := by
  have none : Setting.ofEntry? entry.1 entry.2 = .none := by
    unfold Setting.ofEntry?
    split
    case h_10 => rfl
    all_goals
      rename_i same
      exfalso
    · exact unknown .onColor same.symm
    · exact unknown .offColor same.symm
    · exact unknown .rate same.symm
    · exact unknown .toneHz same.symm
    · exact unknown .volume same.symm
    · exact unknown .scale same.symm
    · exact unknown .fps same.symm
    · exact unknown .seed same.symm
    · exact unknown .wrap same.symm
  rw [addEntry, none]

/-- What an entry that can be read does: it replaces the setting of its name and no other. -/
theorem addEntry_eq_ok {entry : String × Toml.Value} (added : start.addEntry entry = .ok settings) :
    Setting.Readable entry ∧
      (∀ name : SettingName, name.text = entry.1 →
        name.read entry.2 = .ok (settings.get name)) ∧
      (∀ name : SettingName, name.text ≠ entry.1 → settings.get name = start.get name) ∧
      settings.keymap = start.keymap := by
  obtain ⟨written, value⟩ := entry
  by_cases known : ∃ name : SettingName, name.text = written
  · obtain ⟨name, rfl⟩ := known
    rw [addEntry_known] at added
    cases reading : name.read value with
    | error failure =>
      rw [reading] at added
      contradiction
    | ok read =>
      rw [reading] at added
      cases added
      refine ⟨?_, ?_, ?_, start.keymap_set name read⟩
      · intro other same
        cases SettingName.text_injective same
        exact ⟨read, reading⟩
      · intro other same
        cases SettingName.text_injective same
        rw [get_set_self]
        exact reading
      · intro other apart
        exact start.get_set_of_ne read fun same => apart (congrArg SettingName.text same)
  · have unknown : ∀ name : SettingName, name.text ≠ written := not_exists.mp known
    rw [start.addEntry_unknown unknown] at added
    cases added
    exact ⟨fun name same => absurd same (unknown name),
      fun name same => absurd same (unknown name), fun _ _ => rfl, rfl⟩

theorem exists_addEntry (settings : Settings) {entry : String × Toml.Value}
    (readable : Setting.Readable entry) : ∃ after, settings.addEntry entry = .ok after := by
  obtain ⟨written, value⟩ := entry
  by_cases known : ∃ name : SettingName, name.text = written
  · obtain ⟨name, rfl⟩ := known
    obtain ⟨read, reading⟩ := readable name rfl
    exact ⟨settings.set name read, by rw [addEntry_known, reading]; rfl⟩
  · exact ⟨settings, settings.addEntry_unknown (not_exists.mp known)⟩

/-! ## Tables -/

/-- The entries of a table can be put in place exactly when each of them can be read. -/
theorem exists_foldlM_addEntry (start : Settings) (entries : Toml.Entries) :
    (∃ settings, entries.foldlM addEntry start = .ok settings) ↔
      ∀ entry ∈ entries, Setting.Readable entry := by
  induction entries generalizing start with
  | nil => exact ⟨fun _ _ member => absurd member List.not_mem_nil, fun _ => ⟨start, rfl⟩⟩
  | cons entry rest ih =>
    rw [List.foldlM_cons, List.forall_mem_cons]
    constructor
    · rintro ⟨settings, went⟩
      obtain ⟨between, added, later⟩ := Outcome.bind_eq_ok.mp went
      exact ⟨(addEntry_eq_ok added).1, (ih between).mp ⟨settings, later⟩⟩
    · rintro ⟨here, later⟩
      obtain ⟨between, added⟩ := start.exists_addEntry here
      obtain ⟨settings, went⟩ := (ih between).mpr later
      exact ⟨settings, Outcome.bind_eq_ok.mpr ⟨between, added, went⟩⟩

/-- In a table without a name that occurs twice, the entry of a name decides about its setting, and
without such an entry the setting stays. -/
theorem get_of_foldlM (added : entries.foldlM addEntry start = .ok settings)
    (distinct : (entries.map Prod.fst).Nodup) (name : SettingName) :
    (∀ value, entries.find? name.text = some value →
        name.read value = .ok (settings.get name)) ∧
      (entries.find? name.text = none → settings.get name = start.get name) := by
  induction entries generalizing start with
  | nil =>
    cases added
    refine ⟨?_, fun _ => rfl⟩
    intro value found
    contradiction
  | cons entry rest ih =>
    rw [List.foldlM_cons] at added
    obtain ⟨between, here, later⟩ := Outcome.bind_eq_ok.mp added
    rw [List.map_cons, List.nodup_cons] at distinct
    obtain ⟨_, replaced, kept, _⟩ := addEntry_eq_ok here
    obtain ⟨foundLater, missingLater⟩ := ih later distinct.2
    unfold Toml.Entries.find? at foundLater missingLater ⊢
    rw [List.find?_cons]
    by_cases same : name.text = entry.1
    · have missing : rest.find? (fun other => other.1 == name.text) = none := by
        rw [List.find?_eq_none]
        intro other member equal
        apply distinct.1
        rw [← same, ← beq_iff_eq.mp equal]
        exact List.mem_map_of_mem member
      have stays := missingLater (by rw [missing]; rfl)
      simp only [same, beq_self_eq_true, Option.map_some, Option.some.injEq, forall_eq',
        reduceCtorEq, false_implies, and_true]
      rw [stays]
      exact replaced name same
    · have apart : (entry.1 == name.text) = false := beq_eq_false_iff_ne.mpr (Ne.symm same)
      rw [apart]
      refine ⟨foundLater, ?_⟩
      intro missing
      rw [missingLater missing, kept name same]

/-- A table leaves the keymap alone. -/
theorem keymap_of_foldlM (added : entries.foldlM addEntry start = .ok settings) :
    settings.keymap = start.keymap := by
  induction entries generalizing start with
  | nil =>
    cases added
    rfl
  | cons entry rest ih =>
    rw [List.foldlM_cons] at added
    obtain ⟨between, here, later⟩ := Outcome.bind_eq_ok.mp added
    exact (ih later).trans (addEntry_eq_ok here).2.2.2

end Settings

end Chip8
