import Chip8.Proofs.Command.Requests
import Chip8.Proofs.Settings.Keymaps
import Chip8.Proofs.Toml.Distinct
import Chip8.Proofs.Toml.Equality

/-! # Who decides about a setting

The command line decides about a setting if it gives the option for it, the file decides otherwise
if its table has an entry of the name, and else the setting is the standard one. A choice on the
command line counts whatever its value is; a number that is zero is a choice like any other.
-/

namespace Chip8

/-! ## Choices of the command line -/

namespace SettingName

def option? : SettingName → Option Command.RunOption
  | .rate => some .cycles
  | .scale => some .scale
  | .seed => some .seed
  | .wrap => some .wrap
  | .fps | .onColor | .offColor | .toneHz | .volume => none

/-- What the text behind the option for a setting means. There is none behind the option for
wrapping, which turns it on. -/
def ofText (text : String) : (name : SettingName) → Option name.Value
  | .rate => Numeric.readReal? text.toList
  | .scale => Text.readInteger? 10 text.toList
  | .seed => (Text.readInteger? 10 text.toList).map some
  | .wrap => some true
  | .fps | .onColor | .offColor | .toneHz | .volume => none

end SettingName

namespace Settings

def Overrides.get? (choices : Overrides) : (name : SettingName) → Option name.Value
  | .rate => choices.rate
  | .scale => choices.scale
  | .fps => choices.fps
  | .wrap => choices.wrap
  | .seed => choices.seed.map some
  | .onColor => choices.onColor
  | .offColor => choices.offColor
  | .toneHz => choices.toneHz
  | .volume => choices.volume

theorem get_override (settings : Settings) (choices : Overrides) (name : SettingName) :
    (settings.override choices).get name = (choices.get? name).getD (settings.get name) := by
  cases name with
  | seed =>
    change (choices.seed <|> settings.seed) = (choices.seed.map some).getD settings.seed
    cases choices.seed <;> rfl
  | _ => rfl

/-! ## Tables of a document -/

theorem distinct_of_readDocument {content : List UInt8} {document : Toml.Entries}
    (read : readDocument content = .ok document) : document.Distinct := by
  obtain ⟨text, _, read⟩ := Outcome.bind_eq_ok.mp read
  exact Toml.distinct_of_readDocument (Outcome.mapError_eq_ok.mp read)

theorem distinct_of_table? {document table : Toml.Entries} {name : String}
    (distinct : document.Distinct) (named : table? document name = .ok (some table)) :
    table.Distinct := by
  unfold table? at named
  split at named
  · cases named
  · rename_i found
    cases named
    exact (distinct.values _ (Toml.Entries.mem_of_find? found)).entries
  · cases named

end Settings

namespace Command

variable {line : Line RunOption} {choices : Settings.Overrides}

theorem has_eq_isSome (line : Line RunOption) (option : RunOption) :
    line.has option = (line.value? option).isSome := by
  rw [Line.has, Line.value?, Option.isSome_map, Bool.eq_iff_iff, List.any_eq_true,
    List.find?_isSome]
  simp only [List.mem_reverse]

theorem Line.Means.map {α β : Type} {option : RunOption} {read : String → Option α}
    {value : Option α} (means : line.Means option read value) (change : α → β) :
    line.Means option (fun text => (read text).map change) (value.map change) := by
  unfold Line.Means at means ⊢
  split at means
  · exact Option.map_eq_none_iff.mpr means
  · obtain ⟨meaning, reads, rfl⟩ := means
    exact ⟨change meaning, Option.map_eq_some_iff.mpr ⟨meaning, reads, rfl⟩, rfl⟩

theorem means_wrap (line : Line RunOption) :
    line.Means .wrap (fun _ => some true) (if line.has .wrap then some true else none) := by
  rw [has_eq_isSome]
  unfold Line.Means
  cases line.value? .wrap with
  | none => rfl
  | some text => exact ⟨true, rfl, rfl⟩

/-- The command line makes the choices for which it gives an option, and no others. -/
theorem get?_choicesOf (chosen : choicesOf line = .ok choices) (name : SettingName) :
    match name.option?.bind line.value? with
    | some text => ∃ value, name.ofText text = some value ∧ choices.get? name = some value
    | none => choices.get? name = none := by
  obtain ⟨rate, scale, seed, cycles, scaled, seeded, rfl⟩ := choicesOf_eq_ok chosen
  have means : ∀ option, name.option? = some option → line.Means option (name.ofText ·)
      (Settings.Overrides.get? { Settings.Overrides.none with
        rate := rate, scale := scale, seed := seed
        wrap := if line.has .wrap then some true else none } name) := by
    rintro option named
    cases name with
    | rate => cases named; exact cycles
    | scale => cases named; exact scaled
    | seed => cases named; exact seeded.map some
    | wrap => cases named; exact means_wrap line
    | fps | onColor | offColor | toneHz | volume => cases named
  cases named : name.option? with
  | none => cases name <;> first | rfl | cases named
  | some option =>
    have meant := means option named
    unfold Line.Means at meant
    rw [Option.bind_some]
    cases given : line.value? option with
    | none => rwa [given] at meant
    | some text => rwa [given] at meant

/-! ## Tables of the file -/

/-- The tables of settings and of keys that a request goes by. Without a file there are none. -/
def Consults (tree : FileTree) (request : RunRequest) (table : Toml.Entries)
    (keys : Option Toml.Entries) : Prop :=
  match request.config with
  | none => table = [] ∧ keys = none
  | some path => ∃ content document given, tree.read path = .ok content ∧
      Settings.readDocument content = .ok document ∧
      Settings.table? document "emulator" = .ok given ∧ table = given.getD [] ∧
      Settings.table? document "keys" = .ok keys

variable {tree : FileTree} {request : RunRequest} {table : Toml.Entries}
  {keys : Option Toml.Entries} {given settings : Settings}

/-- No table that a request goes by has a name twice. -/
theorem Consults.names (consults : Consults tree request table keys) :
    (table.map Prod.fst).Nodup := by
  unfold Consults at consults
  cases config : request.config with
  | none =>
    rw [config] at consults
    obtain ⟨rfl, _⟩ := consults
    exact List.nodup_nil
  | some path =>
    rw [config] at consults
    obtain ⟨content, document, found, _, read, named, rfl, _⟩ := consults
    cases found with
    | none => exact List.nodup_nil
    | some entries =>
      exact (Settings.distinct_of_table? (Settings.distinct_of_readDocument read) named).names

/-- What the settings of a request are before the command line overrides them. -/
theorem Consults.configured (consults : Consults tree request table keys) :
    Configured tree request given ↔
      ∃ base, Settings.ofEntries table = .ok base ∧
        ((keys = none ∧ given = base) ∨
          ∃ map keymap, keys = some map ∧ Keymap.ofEntries map = .ok keymap ∧
            given = { base with keymap := keymap }) := by
  unfold Consults at consults
  unfold Configured
  cases named : request.config with
  | none =>
    rw [named] at consults
    obtain ⟨rfl, rfl⟩ := consults
    constructor
    · rintro rfl
      exact ⟨_, rfl, .inl ⟨rfl, rfl⟩⟩
    · rintro ⟨base, read, ⟨_, rfl⟩ | ⟨map, keymap, missing, _⟩⟩
      · exact (Except.ok.inj read).symm
      · cases missing
  | some path =>
    rw [named] at consults
    obtain ⟨content, document, found, there, read, settings, rfl, mapped⟩ := consults
    have only {other : List UInt8} : tree.read path = .ok other ↔ content = other := by
      rw [there, Except.ok.injEq]
    simp only [only, exists_eq_left', Settings.ofFile_eq_ok, read, Except.ok.injEq,
      Settings.ofDocument_eq_ok, settings, mapped, exists_and_left]

/-- What a setting is according to who decides about it: the command line if it gives the option,
else the table if it has the name, else nobody. -/
def Decides (line : Line RunOption) (table : Toml.Entries) (name : SettingName)
    (value : name.Value) : Prop :=
  match name.option?.bind line.value?, table.find? name.text with
  | some text, _ => name.ofText text = some value
  | none, some entry => name.read entry = .ok value
  | none, none => value = Settings.standard.get name

/-- The settings of a table with those of a command line in their place are as it is decided. -/
theorem decides_of_override {base : Settings} (chosen : choicesOf line = .ok choices)
    (names : (table.map Prod.fst).Nodup) (read : Settings.ofEntries table = .ok base)
    (name : SettingName) :
    Decides line table name ((base.override choices).get name) := by
  have own := get?_choicesOf chosen name
  obtain ⟨found, missing⟩ := Settings.get_of_foldlM read names name
  rw [Settings.get_override]
  unfold Decides
  cases decided : name.option?.bind line.value? with
  | some text =>
    rw [decided] at own
    obtain ⟨value, meant, chosen⟩ := own
    rw [chosen]
    exact meant
  | none =>
    rw [decided] at own
    rw [own, Option.getD_none]
    cases given : table.find? name.text with
    | some entry => exact found entry given
    | none => exact missing given

/-- The flag of a command line turns its setting on. -/
theorem Decides.wrap {value : Bool} (decides : Decides line table .wrap value)
    (flagged : line.has .wrap = true) : value = true := by
  rw [has_eq_isSome] at flagged
  obtain ⟨text, given⟩ := Option.isSome_iff_exists.mp flagged
  have asks : SettingName.wrap.option?.bind line.value? = some text := given
  unfold Decides at decides
  rw [asks] at decides
  exact (Option.some.inj decides).symm

/-- Nothing but one value is decided. -/
theorem Decides.unique {name : SettingName} {value other : name.Value}
    (one : Decides line table name value) (two : Decides line table name other) :
    value = other := by
  unfold Decides at one two
  cases decided : name.option?.bind line.value? with
  | some text =>
    rw [decided] at one two
    exact Option.some.inj (one.symm.trans two)
  | none =>
    rw [decided] at one two
    cases given : table.find? name.text with
    | some entry =>
      rw [given] at one two
      exact Except.ok.inj (one.symm.trans two)
    | none =>
      rw [given] at one two
      exact one.trans two.symm

/-- A table that says the same of every setting can be read as well. -/
theorem readable_of_agreeing {table' : Toml.Entries} (names : (table'.map Prod.fst).Nodup)
    (agree : ∀ name : SettingName, table'.find? name.text = table.find? name.text)
    (readable : ∀ entry ∈ table, Setting.Readable entry) :
    ∀ entry ∈ table', Setting.Readable entry := by
  rintro ⟨_, value⟩ member name rfl
  have found := (Toml.Entries.find?_eq_some_iff names).mpr member
  rw [agree] at found
  exact readable _ (Toml.Entries.mem_of_find? found) name rfl

/-- The keymap that a table of keys gives, or the standard one if there is no table. -/
def GivesKeymap (keys : Option Toml.Entries) (keymap : Keymap) : Prop :=
  match keys with
  | none => keymap = .standard
  | some map => Keymap.ofEntries map = .ok keymap

theorem keymap_choicesOf (chosen : choicesOf line = .ok choices) : choices.keymap = none := by
  obtain ⟨rate, scale, seed, _, _, _, rfl⟩ := choicesOf_eq_ok chosen
  rfl

/-- A request whose tables can be read has settings, each of which is as it is decided. -/
theorem settingsOf_of_tables (consults : Consults tree request table keys)
    (chosen : choicesOf line = .ok request.choices)
    (readable : ∀ entry ∈ table, Setting.Readable entry)
    (mapped : ∃ keymap, GivesKeymap keys keymap) :
    ∃ settings, settingsOf tree request = .ok settings ∧
      (∀ name, Decides line table name (settings.get name)) ∧
      GivesKeymap keys settings.keymap := by
  obtain ⟨base, read⟩ := (Settings.exists_foldlM_addEntry .standard table).mpr readable
  obtain ⟨keymap, gives⟩ := mapped
  let given : Settings := { base with keymap := keymap }
  have configured : Configured tree request given := by
    refine consults.configured.mpr ⟨base, read, ?_⟩
    unfold GivesKeymap at gives
    cases keys with
    | none =>
      have same : base.keymap = keymap := (Settings.keymap_of_foldlM read).trans gives.symm
      subst same
      exact .inl ⟨rfl, rfl⟩
    | some map => exact .inr ⟨map, keymap, rfl, gives, rfl⟩
  refine ⟨_, settingsOf_eq_ok.mpr ⟨given, configured, rfl⟩, fun name => ?_, ?_⟩
  · have same : (given.override request.choices).get name =
        (base.override request.choices).get name := by cases name <;> rfl
    rw [same]
    exact decides_of_override chosen consults.names read name
  · have same : (given.override request.choices).keymap = keymap := by
      change request.choices.keymap.getD keymap = keymap
      rw [keymap_choicesOf chosen, Option.getD_none]
    rw [same]
    exact gives

/-- The command runs the program of a request with settings each of which is as the command line
says, or else as the file says, or else the standard one, and with a keymap that is that of the file
as a whole or else the standard one. Nothing else counts: another file makes the command run with
the same settings if its table has the same entries in another order, or differs only in names that
no setting has. -/
theorem settings_are_decided {tree : FileTree} {words : List String} {line : Line RunOption}
    {request : RunRequest} {table : Toml.Entries} {keys : Option Toml.Entries}
    (read : Line.read runForms words = .ok line)
    (asked : RunRequest.ofWords tree words = .ok (some request))
    (consults : Consults tree request table keys)
    (readable : ∀ entry ∈ table, Setting.Readable entry)
    (mapped : ∀ map, keys = some map → ∃ keymap, Keymap.ofEntries map = .ok keymap) :
    ∃ settings, settingsOf tree request = .ok settings ∧ RunsWith tree words request settings ∧
      (∀ name, Decides line table name (settings.get name)) ∧
      (line.has .wrap = true → settings.wrap = true) ∧
      (keys = none → settings.keymap = .standard) ∧
      (∀ map, keys = some map → Keymap.Maps map settings.keymap) ∧
      ∀ tree' request' table', request'.choices = request.choices →
        Consults tree' request' table' keys →
        (table'.Perm table ∨
          ∀ name : SettingName, table'.find? name.text = table.find? name.text) →
        settingsOf tree' request' = .ok settings ∧
          ∀ words', RunRequest.ofWords tree' words' = .ok (some request') →
            RunsWith tree' words' request' settings := by
  obtain ⟨line', read', _, _, chosen, _⟩ := line_of_request asked
  obtain rfl := Except.ok.inj (read.symm.trans read')
  have gives : ∃ keymap, GivesKeymap keys keymap := by
    cases keys with
    | none => exact ⟨.standard, rfl⟩
    | some map => exact mapped map rfl
  obtain ⟨settings, found, decided, keymap⟩ :=
    settingsOf_of_tables consults chosen readable gives
  refine ⟨settings, found, runsWith_of_settingsOf asked found, decided, (decided .wrap).wrap,
    ?_, ?_, ?_⟩
  · rintro rfl
    exact keymap
  · rintro map rfl
    exact (Keymap.ofEntries_eq_ok.mp keymap).1
  · intro tree' request' table' sameChoices consults' alike
    have agree : ∀ name : SettingName, table'.find? name.text = table.find? name.text := by
      rcases alike with moved | agree
      · exact fun name => Toml.Entries.find?_of_perm consults.names moved name.text
      · exact agree
    obtain ⟨settings', found', decided', keymap'⟩ := settingsOf_of_tables consults'
      (by rw [chosen, sameChoices])
      (readable_of_agreeing consults'.names agree readable) gives
    have same : settings' = settings := by
      refine Settings.ext_get (fun name => (decided' name).unique ?_) ?_
      · unfold Decides
        rw [agree]
        exact decided name
      · cases keys with
        | none => exact keymap'.trans keymap.symm
        | some map => exact Except.ok.inj (keymap'.symm.trans keymap)
    subst same
    exact ⟨found', fun words' asked' => runsWith_of_settingsOf asked' found'⟩

/-- A file with settings of its own, of which no setting has the name `shade`. -/
def ownSettings : List UInt8 :=
  "[emulator]\nscale = 8\nshade = 1\nseed = 7\n[keys]\nK_x = 1\n".toUTF8.toList

def sameSettings : List UInt8 :=
  "[keys]\nK_x = 1\n[emulator]\nseed = 7\nscale = 8\n".toUTF8.toList

/-- Words that choose zero for the rate and for the seed, beside a file with settings. -/
def zeroWords (file : String) : List String :=
  ["--cycles", "0", "game", "-c", file, "--wrap", "--seed=0"]

/-- Zero is a choice like any other, and the file is asked only where the command line is silent. -/
theorem zero_is_chosen :
    ∃ tree request settings,
      RunRequest.ofWords tree (zeroWords "own.toml") = .ok (some request) ∧
      settingsOf tree request = .ok settings ∧
      RunsWith tree (zeroWords "own.toml") request settings ∧
      settings.rate = 0 ∧ settings.seed = some 0 ∧
      settings.wrap = true ∧ settings.scale = 8 ∧ settings.fps = 60 ∧
      settings.keymap = [("K_x", 1)] ∧
      settingsOf tree { request with config := some "same.toml" } = .ok settings ∧
      RunsWith tree (zeroWords "same.toml") { request with config := some "same.toml" }
        settings := by
  let tree : FileTree := ⟨[(["own.toml"], ownSettings), (["same.toml"], sameSettings),
    (["game"], [0x12, 0x00])], []⟩
  let line : Line RunOption :=
    ⟨[(.cycles, "0"), (.config, "own.toml"), (.wrap, ""), (.seed, "0")], ["game"]⟩
  let request (file : String) : RunRequest := ⟨some file,
    { Settings.Overrides.none with rate := some 0, wrap := some true, seed := some 0 }, "game"⟩
  have asked : RunRequest.ofWords tree (zeroWords "own.toml") =
      .ok (some (request "own.toml")) := by
    decide +kernel
  have asked' : RunRequest.ofWords tree (zeroWords "same.toml") =
      .ok (some (request "same.toml")) := by
    decide +kernel
  have readsOwn : Settings.readDocument ownSettings = .ok
      [("emulator", .table [("scale", .integer 8), ("shade", .integer 1), ("seed", .integer 7)]),
        ("keys", .table [("K_x", .integer 1)])] := by
    decide +kernel
  have readsSame : Settings.readDocument sameSettings = .ok
      [("keys", .table [("K_x", .integer 1)]),
        ("emulator", .table [("seed", .integer 7), ("scale", .integer 8)])] := by
    decide +kernel
  have consults : Consults tree (request "own.toml") _ _ := ⟨_, _, _, rfl, readsOwn, rfl, rfl, rfl⟩
  have consults' : Consults tree (request "same.toml") _ _ :=
    ⟨_, _, _, rfl, readsSame, rfl, rfl, rfl⟩
  let table : Toml.Entries := [("scale", .integer 8), ("shade", .integer 1), ("seed", .integer 7)]
  have readable := (Settings.exists_foldlM_addEntry .standard table).mp
    ⟨{ Settings.standard with scale := 8, seed := some 7 }, by decide +kernel⟩
  obtain ⟨settings, found, runs, decided, wraps, _, keyed, alike⟩ := settings_are_decided
    (rfl : Line.read runForms _ = .ok line) asked consults readable
    (fun map named => ⟨[("K_x", 1)], by cases named; decide +kernel⟩)
  have rate : Decides line table .rate (0 : Float) :=
    (by decide +kernel : Numeric.readReal? "0".toList = some 0)
  have seed : Decides line table .seed (some 0) :=
    (by decide +kernel : (Text.readInteger? 10 "0".toList).map some = some (some 0))
  have scale : Decides line table .scale (8 : Int) :=
    (rfl : Toml.Value.toInteger (.integer 8) = .ok 8)
  obtain ⟨found', runs'⟩ :=
    alike tree (request "same.toml") _ rfl consults' (.inr fun name => by cases name <;> rfl)
  refine ⟨tree, request "own.toml", settings, asked, found, runs, (decided .rate).unique rate,
    (decided .seed).unique seed, wraps rfl, (decided .scale).unique scale,
    (decided .fps).unique rfl, ?_, found', runs' _ asked'⟩
  obtain ⟨entry, rest, ⟨name, number⟩, bare, same⟩ :=
    List.forall₂_cons_left_iff.mp (keyed _ rfl)
  obtain rfl := List.forall₂_nil_left_iff.mp bare
  rw [same]
  exact congrArg ([·]) (Prod.ext name (Except.ok.inj number).symm)

end Command

end Chip8
