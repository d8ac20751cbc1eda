import SpriteStage.Text.Cut
import SpriteStage.Text.Integer

/-!
# Options

What the arguments of the program ask for. Arguments are read from left to right, and the first one
that is not understood decides; so does the first that asks for help or for the version.

An option takes its value from behind an equals sign, or else from the next argument, which must not
begin with a dash unless it is just that.
-/

namespace SpriteStage

/-- What the program is asked to do. -/
structure Options where
  /-- The file to load settings from. -/
  config : Option String := none
  /-- The file to write settings to, instead of playing. -/
  writeConfig : Option String := none
  /-- The kinds of sprites to add. -/
  sprites : List String := []
  /-- The sprites to add tabs for. -/
  tabs : List Nat := []
  /-- The commands to append. -/
  motions : List String := []
  /-- The tracked positions to set. -/
  tracks : List String := []
  /-- Track tabs at the positions of their sprites. -/
  followSprites : Bool := false
  /-- Start on a bare stage. -/
  noStarter : Bool := false
  /-- Write the outcome in JSON. -/
  json : Bool := false
  deriving DecidableEq, Repr

/-- Why arguments do not lead to options. -/
inductive Stop where
  /-- An argument is not understood. -/
  | usage
  /-- Help is asked for. -/
  | help
  /-- The version is asked for. -/
  | version
  deriving DecidableEq, Repr

/-- The options that take a value. -/
inductive Key where
  /-- Load settings from a file. -/
  | config
  /-- Write settings to a file. -/
  | writeConfig
  /-- Add a sprite. -/
  | sprite
  /-- Add a tab. -/
  | tab
  /-- Append a command. -/
  | motion
  /-- Set a tracked position. -/
  | track
  deriving DecidableEq, Repr

/-- The option with a long name. -/
def Key.ofName? : String → Option Key
  | "config" => some config
  | "write-config" => some writeConfig
  | "sprite" => some sprite
  | "tab" => some tab
  | "motion" => some motion
  | "track" => some track
  | _ => none

namespace Options

/-- Give an option its value. The two files can be named only once and not by an empty path, and the
number of a sprite must fit a word of 32 bits. -/
def assign? (options : Options) (key : Key) (value : String) : Option Options :=
  match key with
  | .config =>
    if options.config.isSome || value.isEmpty then none
    else some { options with config := some value }
  | .writeConfig =>
    if options.writeConfig.isSome || value.isEmpty then none
    else some { options with writeConfig := some value }
  | .sprite => some { options with sprites := options.sprites ++ [value] }
  | .tab => do
    let n ← Text.integer? value.toList
    if 0 ≤ n ∧ n < UInt32.size then some { options with tabs := options.tabs ++ [n.toNat] }
    else none
  | .motion => some { options with motions := options.motions ++ [value] }
  | .track => some { options with tracks := options.tracks ++ [value] }

/-- What a long option without a value does. Help, the version and a flag that is given again end
the reading. -/
def flag (options : Options) (name : String) : Except Stop Options :=
  match name with
  | "follow-sprites" =>
    if options.followSprites then .error .usage else .ok { options with followSprites := true }
  | "no-starter" =>
    if options.noStarter then .error .usage else .ok { options with noStarter := true }
  | "json" => if options.json then .error .usage else .ok { options with json := true }
  | "help" => .error .help
  | "version" => .error .version
  | _ => .error .usage

/-- What a cluster of short options does: its first letter ends the reading. -/
def cluster : List Char → Stop
  | 'h' :: _ => .help
  | 'V' :: _ => .version
  | _ => .usage

/-- The argument can be the value of the option before it. -/
def isValue (argument : String) : Bool := argument = "-" || argument.toList.head? ≠ some '-'

/-- An argument in its parts. -/
inductive Argument where
  /-- Two dashes: no more options follow. -/
  | separator
  /-- A long option with its value. -/
  | assigned (name value : String)
  /-- A long option. -/
  | long (name : String)
  /-- A cluster of short options. -/
  | short (letters : List Char)
  /-- Anything else. -/
  | plain
  deriving DecidableEq, Repr

/-- The parts of an argument. -/
def Argument.of (argument : String) : Argument :=
  match argument.toList with
  | ['-'] => plain
  | ['-', '-'] => separator
  | '-' :: '-' :: text =>
    match Text.cutAt? (· = '=') text with
    | some (name, value) => assigned (String.ofList name) (String.ofList value)
    | none => long (String.ofList text)
  | '-' :: letters => short letters
  | _ => plain

/-- Read arguments on top of options that were read before. -/
def read (options : Options) : List String → Except Stop Options
  | [] => .ok options
  | argument :: rest =>
    match Argument.of argument with
    | .separator => if rest.isEmpty then .ok options else .error .usage
    | .plain => .error .usage
    | .short letters => .error (cluster letters)
    | .assigned name value =>
      match (Key.ofName? name).bind (options.assign? · value) with
      | some options => read options rest
      | none => .error .usage
    | .long name =>
      match Key.ofName? name with
      | some key =>
        match rest with
        | [] => .error .usage
        | value :: rest =>
          match if isValue value then options.assign? key value else none with
          | some options => read options rest
          | none => .error .usage
      | none =>
        match options.flag name with
        | .ok options => read options rest
        | .error stop => .error stop

/-- The options that arguments give. -/
def ofArguments (arguments : List String) : Except Stop Options := read {} arguments

end Options

end SpriteStage
