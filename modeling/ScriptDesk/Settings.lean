import ScriptDesk.Disk
import ScriptDesk.Toml.Reader
import ScriptDesk.Toml.Writer

/-!
# Settings

The settings say into which directory new scripts are saved and how far observers may fall behind.
They are kept in a TOML file in the home directory. A setting that the file does not name has its
default, keys that are no settings are ignored, and a value of the wrong kind makes the whole file
invalid. Without a valid file all settings have their defaults.
-/

namespace ScriptDesk

/-- How new scripts are saved and how far observers may fall behind. -/
structure Settings (unit : Type := Char) where
  /-- The directory into which new scripts are saved. -/
  scriptsDirectory : Path unit
  /-- How far observers may fall behind. -/
  observerCapacity : Nat := 256
  deriving DecidableEq, Repr, Inhabited

/-- Why settings cannot be read or written. -/
inductive SettingsError where
  /-- The disk refused. -/
  | disk (error : DiskError)
  /-- The file is no TOML document, or a setting has a value of the wrong kind. -/
  | invalid
  /-- A number is too large for a TOML document. -/
  | tooLarge
  deriving DecidableEq, Repr

namespace SettingsError

/-- The wording of an error. -/
def message : SettingsError → Text
  | .disk error => "config I/O error: ".toList ++ error.message
  | .invalid => "config parse error".toList
  | .tooLarge => "config serialize error".toList

end SettingsError

namespace Settings

/-- The key of the directory into which new scripts are saved. -/
def directoryKey : Text := "scripts_directory_path".toList

/-- The key of how far observers may fall behind. -/
def capacityKey : Text := "observer_channel_capacity".toList

open PathUnit (spell)

section Reading

variable {α : Type} [DecidableEq α] [PathUnit α]

/-- The path of the settings file in a home directory. -/
def defaultPath (home : Path α) : Path α :=
  Path.join (Path.join home (spell ".scriptpad".toList)) (spell "config.toml".toList)

/-- The default settings: scripts are saved into the home directory. -/
def ofHome (home : Path α) : Settings α :=
  { scriptsDirectory := home }

/-! ## Reading -/

/-- The directory that the entries name, or else the default. -/
def directoryOf? (default : Path α) (entries : Toml.Entries) : Option (Path α) :=
  match entries.get? directoryKey with
  | none => some default
  | some (.text path) => some (spell path)
  | some _ => none

/-- The capacity that the entries give, or else the default. -/
def capacityOf? (default : Nat) (entries : Toml.Entries) : Option Nat :=
  match entries.get? capacityKey with
  | none => some default
  | some (.integer value) => if 0 ≤ value then some value.toNat else none
  | some _ => none

/-- The settings that a text stands for; those it does not name are as in `defaults`. -/
def ofText? (defaults : Settings α) (text : Text) : Option (Settings α) := do
  let entries ← Toml.read text
  return {
    scriptsDirectory := ← directoryOf? defaults.scriptsDirectory entries
    observerCapacity := ← capacityOf? defaults.observerCapacity entries }

/-- Read settings from a file. -/
def loadFrom (home : Path α) (disk : Disk α) (path : Path α) :
    Except SettingsError (Settings α) := do
  let text ← (disk.readText path).mapError .disk
  match ofText? (ofHome home) text with
  | some settings => return settings
  | none => throw .invalid

/-- Read the settings from their file in the home directory. -/
def load (home : Path α) (disk : Disk α) : Settings α :=
  match loadFrom home disk (defaultPath home) with
  | .ok settings => settings
  | .error _ => ofHome home

end Reading

/-! ## Writing -/

/-- The largest number that a TOML document can hold. -/
def maxNumber : Nat := 9223372036854775807

/-- The settings as a text. -/
def text (settings : Settings) : Text :=
  directoryKey ++ " = ".toList ++ Toml.writtenString settings.scriptsDirectory ++ ['\n']
    ++ capacityKey ++ " = ".toList ++ Text.ofNat settings.observerCapacity ++ ['\n']

/-- Write the settings to a file, after the directories above it were made. -/
def saveTo (settings : Settings) (disk : Disk) (path : Path) : Except SettingsError Unit × Disk :=
  match disk.makeParents path with
  | (.error e, disk) => (.error (.disk e), disk)
  | (.ok (), disk) =>
    if maxNumber < settings.observerCapacity then (.error .tooLarge, disk)
    else
      match disk.write path settings.text.toBytes with
      | .error e => (.error (.disk e), disk)
      | .ok disk => (.ok (), disk)

/-- Write the settings to their file in the home directory. -/
def save (settings : Settings) (home : Path) (disk : Disk) : Except SettingsError Unit × Disk :=
  settings.saveTo disk (defaultPath home)

end Settings

end ScriptDesk
