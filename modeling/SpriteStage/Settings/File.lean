import SpriteStage.Decimal.Reader
import SpriteStage.Settings.Basic
import SpriteStage.Settings.Ini

/-!
# Settings in files

Loading takes over, one by one, the settings that a file gives a usable value for; all others stay
as they are. If the file cannot be read or is not in the form of an INI file nothing is taken
over.

* `Settings.load` takes over what a file says.
* `Settings.text` is the file that says what the settings are.
-/

namespace SpriteStage

/-- Why the operating system refuses to read or write a file. -/
inductive FileFault where
  /-- There is no file or folder of that name. -/
  | missing
  /-- It is a folder. -/
  | isFolder
  /-- It is a file but should be a folder. -/
  | notFolder
  /-- The path or a name in it is too long. -/
  | nameTooLong
  /-- Anything else, with the reason and the number that the system gives. -/
  | other (reason : String) (code : Nat)
  deriving DecidableEq, Repr

/-- The reason in the system's words, with its number. -/
def FileFault.message : FileFault → String
  | missing => "No such file or directory (os error 2)"
  | isFolder => "Is a directory (os error 21)"
  | notFolder => "Not a directory (os error 20)"
  | nameTooLong => "File name too long (os error 36)"
  | other reason code => reason ++ " (os error " ++ toString code ++ ")"

/-- Why settings cannot be loaded. -/
inductive LoadFault where
  /-- The file cannot be read. -/
  | unreadable (fault : FileFault)
  /-- The file is not in UTF-8. -/
  | notText
  /-- The file is not in the form of an INI file. -/
  | malformed (fault : Ini.Fault)
  deriving DecidableEq, Repr

/-- The message about a file that cannot be loaded. -/
def LoadFault.message (fault : LoadFault) (path : String) : String :=
  let reason := match fault with
    | unreadable fault => fault.message
    | notText => "stream did not contain valid UTF-8"
    | malformed fault => fault.message
  "Failed to load config file: couldn't read " ++ path ++ ": " ++ reason

/-- The message about settings that cannot be saved. -/
def FileFault.saveMessage (fault : FileFault) : String :=
  "Failed to save config file: " ++ fault.message

/-- A truth value in any case. -/
def readTruth? (text : List Char) : Option Bool :=
  let word := text.map Char.toLower
  if word = "true".toList then some true
  else if word = "false".toList then some false
  else none

/-- A tick rate, held between 1 and the greatest word of 32 bits. Numbers beyond 64 bits are
refused. -/
def readRate? (text : List Char) : Option UInt32 := do
  let n ← Text.natural? text
  if n < UInt64.size then some (UInt32.ofNat (max 1 (min n (UInt32.size - 1)))) else none

/-- A time scale has to be finite and not negative. -/
def isScale (x : Float) : Bool := x.isFinite && 0 ≤ x

/-- The message about a time scale that is not one. -/
def scaleMessage (x : Float) : String :=
  "Ignoring time_scale " ++ x.plain ++ ": must be a non-negative number"

/-- Loaded settings. -/
structure Loaded where
  /-- The settings with what was taken over. -/
  settings : Settings
  /-- A number that was given as time scale and cannot be one. -/
  rejectedScale : Option Float

namespace Settings

/-- Take over what entries say. -/
def adopt (settings : Settings) (entries : List Ini.Entry) : Loaded :=
  let value? := Ini.value? entries
  let scale := (value? "runner" "time_scale").bind readNumber?
  { settings := {
      starterSprite :=
        ((value? "stage" "starter_sprite").bind readTruth?).getD settings.starterSprite
      followSprites :=
        ((value? "collision" "follow_sprites").bind readTruth?).getD settings.followSprites
      tickRate := ((value? "runner" "tick_hz").bind readRate?).getD settings.tickRate
      timeScale := ((scale.filter isScale).map Float.narrow).getD settings.timeScale }
    rejectedScale := scale.filter (!isScale ·) }

/-- Take over what a file says. -/
def load (settings : Settings) (file : Except FileFault ByteArray) : Except LoadFault Loaded := do
  let bytes ← file.mapError .unreadable
  let text ← (String.fromUTF8? bytes).elim (.error .notText) .ok
  let entries ← (Ini.read text.toList).mapError .malformed
  return settings.adopt entries

/-- The message about settings that were loaded. -/
def loadedMessage (settings : Settings) : String :=
  "Loaded config: starter_sprite=" ++ toString settings.starterSprite
    ++ ", follow_sprites=" ++ toString settings.followSprites
    ++ ", tick_hz=" ++ toString settings.tickRate.toNat
    ++ ", time_scale=" ++ settings.timeScale.plain

/-- What the settings are, by headers. -/
def groups (settings : Settings) : List Ini.Group :=
  [⟨"stage", [("starter_sprite", toString settings.starterSprite)]⟩,
    ⟨"collision", [("follow_sprites", toString settings.followSprites)]⟩,
    ⟨"runner", [("tick_hz", toString settings.tickRate.toNat),
      ("time_scale", settings.timeScale.plain)]⟩]

/-- The file that says what the settings are. -/
def text (settings : Settings) : String := Ini.write settings.groups

end Settings

end SpriteStage
