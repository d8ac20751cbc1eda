import SpriteStage.CommandLine.Options
import SpriteStage.Settings.File
import SpriteStage.Stage.Run
import SpriteStage.Stage.Snapshot
import SpriteStage.Text.Blank
import SpriteStage.Text.ControlSequence
import SpriteStage.Text.Quoted

/-!
# Sessions

What the program does with its options. It loads settings, builds a stage from them and from the
arguments, plays all queues until nothing runs any more, and shows the stage. Arguments that make no
sense are noted and passed over. Asked to write its settings to a file it does that instead.

A session touches files in two places: it is given what was found at `Options.configPath`, and it
may end in a request to write a file, which names what to report for either outcome.
-/

namespace SpriteStage

/-- A line that the program notes while it works. -/
inductive Note where
  /-- Something that happened. -/
  | info (message : String)
  /-- Something that was passed over. -/
  | warn (message : String)
  /-- Why the program failed. -/
  | error (message : String)
  deriving DecidableEq, Repr

namespace Note

/-- A message whose further lines are set in by four spaces. -/
def setIn (message : String) : String :=
  String.ofList (message.toList.flatMap fun c => if c = '\n' then "\n    ".toList else [c])

/-- A note as a line, with its level in front. What is noted about the work repeats texts of the
user and is written without control sequences; a sequence that is left open takes the end of the
line with it. -/
def line : Note → String
  | info message => Text.withoutControls ("INFO " ++ setIn message ++ "\n")
  | warn message => Text.withoutControls ("WARN " ++ setIn message ++ "\n")
  | error message => "Error: " ++ message ++ "\n"

/-- A sprite was added. -/
def added (kind : SpriteKind) (id : SpriteId) : Note :=
  info ("Added " ++ kind.name ++ " sprite #" ++ toString id)

/-- A tab was added. -/
def addedTab (id : ActionId) (sprite : SpriteId) : Note :=
  info ("Added action tab " ++ toString id ++ " to sprite #" ++ toString sprite)

end Note

/-- What the program leaves behind. -/
structure Report where
  /-- The exit status. -/
  status : Nat := 0
  /-- What it prints. -/
  output : String := ""
  /-- What it notes, in order. -/
  notes : List Note := []
  deriving DecidableEq, Repr

/-- What is noted, line by line. -/
def Report.log (report : Report) : String := String.join (report.notes.map Note.line)

/-- What the program says when it is asked for help. -/
def helpText : String :=
  "Play sprite motion scripts headlessly and print where the sprites end up

Usage: motionstage [OPTIONS]

Options:
      --config <PATH>            Configuration file (INI)
      --write-config <PATH>      Write the effective configuration to PATH and exit
      --sprite <KIND>            Add a sprite of the given kind (cat or earth). Repeatable
      --tab <SPRITE_ID>          Add an action tab to the sprite with this id. Repeatable
      --motion <ACTION=COMMAND>  Append a motion to an action tab, as ACTION=COMMAND. Repeatable
      --track <ACTION=X,Y>       Set a tracked position for collisions. Repeatable
      --follow-sprites           Derive tracked positions from sprite positions
      --no-starter               Do not create the starter cat sprite
      --json                     Print the final stage as JSON
  -h, --help                     Print help
  -V, --version                  Print version
"

/-- What the program leaves behind when its arguments give no options. -/
def Stop.report : Stop → Report
  | usage => { status := 2 }
  | help => { output := helpText }
  | version => { output := "motionstage 0.1.0\n" }

/-- How a session ends. -/
inductive Session where
  /-- It is over. -/
  | over (report : Report)
  /-- A file is to be written; what to report depends on whether that works. -/
  | save (path text : String) (conclude : Option FileFault → Report)

/-! ## Arguments with a key -/

/-- The key and the value of an argument, at the first equals sign and without blanks around them.
The key must not be empty. -/
def assignment? (argument : String) : Option (ActionId × List Char) := do
  let (key, value) ← Text.cutAt? (· = '=') argument.toList
  let key := trimBlanks key
  if key.isEmpty then none else some (⟨String.ofList key⟩, trimBlanks value)

/-- Two coordinates with a comma between them and blanks around them. -/
def coordinates? (text : List Char) : Option Position := do
  let (x, y) ← Text.cutAt? (· = ',') text
  return ⟨← Text.int32? (trimBlanks x), ← Text.int32? (trimBlanks y)⟩

/-- The tab and the position that an argument sets. -/
def tracking? (argument : String) : Option (ActionId × Position) := do
  let (id, value) ← assignment? argument
  return (id, ← coordinates? value)

/-! ## Building the stage -/

/-- A stage that is being built, with what there is to note about it. -/
structure Setup where
  /-- The stage so far. -/
  stage : Stage
  /-- The notes so far. -/
  notes : List Note := []

namespace Setup

/-- Add a note. -/
def note (setup : Setup) (n : Note) : Setup := { setup with notes := setup.notes ++ [n] }

/-- The stage that settings ask for. -/
def new (settings : Settings) : Setup :=
  let stage := Stage.new settings
  { stage
    notes := stage.cast.sprites.map (fun sprite => .added sprite.kind sprite.id)
      ++ stage.tabs.map fun tab => .addedTab tab.id tab.sprite }

/-- Add a sprite of a kind that is given by name. -/
def spriteArgument (setup : Setup) (kind : String) : Setup :=
  match SpriteKind.ofName? kind with
  | some kind =>
    let (sprite, stage) := setup.stage.addSprite kind
    { setup with stage }.note (.added kind sprite.id)
  | none => setup.note (.warn ("Unknown sprite kind " ++ Text.quoted kind ++ ", skipped"))

/-- Add a tab for the sprite with a number. -/
def tabArgument (setup : Setup) (number : Nat) : Setup :=
  match setup.stage.addTabFor? ⟨number⟩ with
  | some (id, stage) => { setup with stage }.note (.addedTab id ⟨number⟩)
  | none => setup.note (.warn ("No sprite #" ++ toString number ++ ", tab not added"))

/-- Append a command to a queue. -/
def motionArgument (setup : Setup) (argument : String) : Setup :=
  match assignment? argument with
  | some (id, command) =>
    { setup with stage := setup.stage.append id (String.ofList command) }
  | none => setup.note
      (.warn ("Ignoring motion " ++ Text.quoted argument ++ ": expected ACTION=COMMAND"))

/-- Set the tracked position of a tab. -/
def trackArgument (setup : Setup) (argument : String) : Setup :=
  match tracking? argument with
  | some (id, position) =>
    match setup.stage.track? id (some position) with
    | some stage => { setup with stage }
    | none => setup.note
        (.warn ("No action tab " ++ toString id ++ ", tracked position ignored"))
  | none => setup.note
      (.warn ("Ignoring track " ++ Text.quoted argument ++ ": expected ACTION=X,Y"))

/-- The stage that settings and arguments ask for. -/
def build (settings : Settings) (options : Options) : Setup :=
  let setup := options.sprites.foldl spriteArgument (new settings)
  let setup := options.tabs.foldl tabArgument setup
  let setup := options.motions.foldl motionArgument setup
  options.tracks.foldl trackArgument setup

end Setup

/-! ## Playing -/

/-- The greatest number of ticks in a session. -/
def tickLimit : Nat := 1000000

/-- The note that an event leaves. -/
def Event.note? : Event → Option Note
  | .playbackFinished playback time =>
    some (.info (toString playback ++ " finished at " ++ time.fixed 3 ++ "s"))
  | _ => none

/-- The lines that show a stage. -/
def Stage.lines (stage : Stage) : List String :=
  stage.cast.sprites.map (·.text) ++ stage.tabs.map fun tab =>
    tab.label ++ " [" ++ toString tab.id ++ "]: " ++ Text.quotedList (stage.queues.get tab.id)

/-- What is printed of a stage: its lines, or its snapshot in JSON. -/
def Stage.shown (stage : Stage) (json : Bool) : String :=
  String.join ((if json then [stage.snapshot.text] else stage.lines).map (· ++ "\n"))

/-- Play all queues of a stage until nothing runs any more, and show how it ends. -/
def Setup.play (setup : Setup) (json : Bool) : Report :=
  let lanes := setup.stage.queues.script.size
  let (playback, stage, opening) := setup.stage.play
  let run := stage.runUntilIdle stage.settings.tickDelta tickLimit
  let stage := run.stage
  -- a playback without lanes is over without a note
  let events := if lanes = 0 then [] else opening ++ run.events.toList
  let notes := .info ("Starting " ++ toString playback ++ " with " ++ toString lanes ++ " lane(s)")
    :: events.filterMap Event.note?
    ++ [.info (toString playback ++ " done after " ++ toString run.ticks ++ " tick(s), "
      ++ stage.elapsed.fixed 3 ++ "s of stage time (finished: "
      ++ toString (stage.isFinished playback) ++ ")")]
  { output := stage.shown json, notes := setup.notes ++ notes }

namespace Options

/-- The file to load settings from. -/
def configPath (options : Options) : String := options.config.getD "./motionstage.ini"

/-- The settings of a session, and what there is to note about them. Flags win over the file. -/
def settings (options : Options) (file : Except FileFault ByteArray) : Settings × List Note :=
  let (settings, notes) : Settings × List Note := match Settings.load {} file with
    | .ok loaded =>
      (loaded.settings,
        loaded.rejectedScale.toList.map (.warn ∘ scaleMessage)
          ++ [.info loaded.settings.loadedMessage])
    | .error fault =>
      ({}, [if options.config.isSome then
          .warn (fault.message options.configPath ++ "; using defaults")
        else .info "No config file loaded, using defaults"])
  ({ settings with
      followSprites := settings.followSprites || options.followSprites
      starterSprite := settings.starterSprite && !options.noStarter },
    notes)

/-- The session that options ask for, given what was found at their path. -/
def session (options : Options) (file : Except FileFault ByteArray) : Session :=
  let (settings, notes) := options.settings file
  match options.writeConfig with
  | some path => .save path settings.text fun
    | none =>
      { output := "Configuration written to " ++ path ++ "\n"
        notes := notes ++ [.info ("Saved config to " ++ Text.quoted path)] }
    | some fault => { status := 1, notes := notes ++ [.error fault.saveMessage] }
  | none =>
    let report := (Setup.build settings options).play options.json
    .over { report with notes := notes ++ report.notes }

end Options

end SpriteStage
