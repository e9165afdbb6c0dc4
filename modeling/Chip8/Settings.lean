import Chip8.Hardware
import Chip8.Notice
import Chip8.Settings.Keymap
import Chip8.Toml.Document

/-! # Settings

What the user may choose. A document gives settings in its table `emulator` and a keymap in its
table `keys`; the command line may override single settings.

An entry becomes a `Setting` before it is put in place, so that reading a value and using it are
apart: the settings that a table gives are the standard ones with its entries put in place in order.
-/

namespace Chip8

/-- Everything that the user may choose. -/
structure Settings where
  /-- Instructions per second. -/
  rate : Float
  /-- The side of the block of the window that shows one pixel. -/
  scale : Int
  /-- Frames per second. -/
  fps : Int
  /-- Whether sprites continue at the opposite edge. -/
  wrap : Bool
  /-- What the random source starts from; without it the start is arbitrary. -/
  seed : Option Int
  onColor : Color
  offColor : Color
  /-- The frequency of the tone. -/
  toneHz : Float
  /-- The loudness of the tone as a part of the greatest. -/
  volume : Float
  keymap : Keymap
deriving DecidableEq, Repr

inductive Setting where
  | rate (value : Float)
  | scale (value : Int)
  | fps (value : Int)
  | wrap (value : Bool)
  | seed (value : Int)
  | onColor (value : Color)
  | offColor (value : Color)
  | toneHz (value : Float)
  | volume (value : Float)
deriving Repr

/-- The choice that an entry of a table makes, unless there is no setting of its name. -/
def Setting.ofEntry? (name : String) (value : Toml.Value) : Option (Except SettingsError Setting) :=
  match name with
  | "on_color" => some ((Color.ofValue value).map .onColor)
  | "off_color" => some ((Color.ofValue value).map .offColor)
  | "cycles_per_second" => some (value.toReal.map .rate)
  | "tone_hz" => some (value.toReal.map .toneHz)
  | "volume" => some (value.toReal.map .volume)
  | "scale" => some (value.toInteger.map .scale)
  | "fps" => some (value.toInteger.map .fps)
  | "seed" => some (value.toInteger.map .seed)
  | "wrap" => some (.ok (.wrap value.toTruth))
  | _ => none

namespace Settings

/-- The settings where nothing was chosen. -/
def standard : Settings where
  rate := defaultRate
  scale := 20
  fps := 60
  wrap := false
  seed := none
  onColor := .white
  offColor := .black
  toneHz := 440
  volume := 0.25
  keymap := .standard

def put (settings : Settings) : Setting → Settings
  | .rate value => { settings with rate := value }
  | .scale value => { settings with scale := value }
  | .fps value => { settings with fps := value }
  | .wrap value => { settings with wrap := value }
  | .seed value => { settings with seed := some value }
  | .onColor value => { settings with onColor := value }
  | .offColor value => { settings with offColor := value }
  | .toneHz value => { settings with toneHz := value }
  | .volume value => { settings with volume := value }

/-- Puts the choice of an entry in place; entries of unknown names are left out. -/
def addEntry (settings : Settings) (entry : String × Toml.Value) : Except SettingsError Settings :=
  match Setting.ofEntry? entry.1 entry.2 with
  | some setting => setting.map settings.put
  | none => .ok settings

def ofEntries (entries : Toml.Entries) : Except SettingsError Settings :=
  entries.foldlM addEntry standard

/-- The entries of a table of a document, if the document names it. -/
def table? (document : Toml.Entries) (name : String) :
    Except SettingsError (Option Toml.Entries) :=
  match document.find? name with
  | none => .ok none
  | some (.table entries) => .ok (some entries)
  | some value => .error (.notATable value.kind)

/-- The settings that a document gives. Its keymap replaces the standard one as a whole. -/
def ofDocument (document : Toml.Entries) : Except SettingsError Settings := do
  let settings ← ofEntries ((← table? document "emulator").getD [])
  match ← table? document "keys" with
  | none => .ok settings
  | some keys => .ok { settings with keymap := ← Keymap.ofEntries keys }

def readDocument (content : List UInt8) : Except SettingsError Toml.Entries := do
  let text ← (Text.decodeFile content).mapError .notText
  (Toml.readDocument text.toList).mapError fun error => .malformed error text

def ofFile (content : List UInt8) : Except SettingsError Settings := do
  ofDocument (← readDocument content)

/-! ## Overriding -/

/-- Choices that take precedence over those of a file. -/
structure Overrides where
  rate : Option Float
  scale : Option Int
  fps : Option Int
  wrap : Option Bool
  seed : Option Int
  onColor : Option Color
  offColor : Option Color
  toneHz : Option Float
  volume : Option Float
  keymap : Option Keymap
deriving DecidableEq, Repr

def Overrides.none : Overrides :=
  ⟨.none, .none, .none, .none, .none, .none, .none, .none, .none, .none⟩

/-- The settings with the given choices in place of their own. -/
def override (settings : Settings) (choices : Overrides) : Settings where
  rate := choices.rate.getD settings.rate
  scale := choices.scale.getD settings.scale
  fps := choices.fps.getD settings.fps
  wrap := choices.wrap.getD settings.wrap
  seed := choices.seed <|> settings.seed
  onColor := choices.onColor.getD settings.onColor
  offColor := choices.offColor.getD settings.offColor
  toneHz := choices.toneHz.getD settings.toneHz
  volume := choices.volume.getD settings.volume
  keymap := choices.keymap.getD settings.keymap

/-! ## What there is to report -/

/-- The notices on the entries of a table that comes from a path, up to the first that is faulty. -/
def entriesNotices (path : String) : Toml.Entries → List Notice
  | [] => []
  | (name, value) :: rest =>
    match Setting.ofEntry? name value with
    | none => ⟨.warning, s!"Unknown setting {name} in {path}"⟩ :: entriesNotices path rest
    | some (.ok _) => entriesNotices path rest
    | some (.error _) => []

def fileNotices (path : String) (content : List UInt8) : List Notice :=
  let entries := do table? (← readDocument content) "emulator"
  ⟨.debug, s!"Reading config {path}"⟩ ::
    match entries with
    | .ok (some entries) => entriesNotices path entries
    | _ => []

end Settings

end Chip8
