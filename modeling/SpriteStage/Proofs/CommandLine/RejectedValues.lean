import SpriteStage.Proofs.CommandLine.Arguments
import SpriteStage.Proofs.CommandLine.Setup
import SpriteStage.Proofs.Stage.Refusals
import SpriteStage.Proofs.Text

/-!
# Rejected values

Sprites of unknown kinds, tabs for sprites that are not there, commands for no queue and tracked
positions that make no sense are passed over, each with a warning. Whether a tab or a position makes
sense depends on the stage that is being built. The module introduces:

* `LacksAction` and `LacksPosition`: why an argument with a key is not understood, told by its text;
* `Setup.Screens`: arguments of which some are rejected, `Screens.step`: what one of them does to
  two setups that are alike, and `Screens.foldl`: the rejected ones can be left out;
* `Options.rejections`: the values that are rejected when options build a stage, and
  `Options.warnings`: one warning for each of them;
* `alike_build`: the stage that is built without them is the same.

The main statement is `rejected_values_have_no_effect`.
-/

namespace SpriteStage

/-! ## Arguments with a key -/

/-- What stands before the first equals sign of an argument is missing or blank. -/
def LacksAction (argument : String) : Prop :=
  '=' ∉ argument.toList ∨ (argument.toList.takeWhile (· ≠ '=')).all isBlank = true

instance (argument : String) : Decidable (LacksAction argument) :=
  inferInstanceAs (Decidable (_ ∨ _))

/-- The queue that an argument names before its first equals sign. -/
def actionOf (argument : String) : ActionId :=
  ⟨String.ofList (trimBlanks (argument.toList.takeWhile (· ≠ '=')))⟩

/-- What an argument gives behind its first equals sign. -/
def givenBy (argument : String) : List Char :=
  trimBlanks (argument.toList.dropWhile (· ≠ '=')).tail

theorem assignment?_eq (argument : String) :
    assignment? argument =
      if LacksAction argument then none else some (actionOf argument, givenBy argument) := by
  rw [assignment?, Text.cutAt?_eq]
  by_cases hsign : '=' ∈ argument.toList
  · have hblank : (trimBlanks (argument.toList.takeWhile (· ≠ '='))).isEmpty = true ↔
        LacksAction argument := by
      rw [List.isEmpty_iff, trimBlanks_eq_nil_iff, ← List.all_eq_true, LacksAction]
      exact ⟨.inr, (·.resolve_left (not_not_intro hsign))⟩
    rw [if_pos hsign]
    exact if_congr hblank rfl rfl
  · rw [if_neg hsign, if_pos (.inl hsign)]
    rfl

/-- A text is an integer of 32 bits, but for blanks around it. -/
def IsCoordinate (text : List Char) : Prop :=
  ∃ n ∈ Text.integer? (trimBlanks text), -2 ^ 31 ≤ n ∧ n < 2 ^ 31

instance (text : List Char) : Decidable (IsCoordinate text) :=
  inferInstanceAs (Decidable (∃ n ∈ Text.integer? (trimBlanks text), -2 ^ 31 ≤ n ∧ n < 2 ^ 31))

/-- A text is two coordinates with a comma between them. -/
def IsPosition (text : List Char) : Prop :=
  ',' ∈ text ∧ IsCoordinate (text.takeWhile (· ≠ ',')) ∧
    IsCoordinate (text.dropWhile (· ≠ ',')).tail

instance (text : List Char) : Decidable (IsPosition text) :=
  inferInstanceAs (Decidable (_ ∧ _ ∧ _))

theorem isSome_int32?_iff {text : List Char} :
    (Text.int32? (trimBlanks text)).isSome = true ↔ IsCoordinate text := by
  have hfits (n : Int) : Int32.minValue.toInt ≤ n ∧ n ≤ Int32.maxValue.toInt ↔
      -2 ^ 31 ≤ n ∧ n < 2 ^ 31 := by
    have hmin : Int32.minValue.toInt = -2 ^ 31 := rfl
    have hmax : Int32.maxValue.toInt = 2 ^ 31 - 1 := rfl
    rw [hmin, hmax, Int.le_sub_one_iff]
  rw [Text.int32?, IsCoordinate]
  simp only [hfits]
  cases Text.integer? (trimBlanks text) <;> simp

/-- Exactly the positions are read. -/
theorem isSome_coordinates?_iff {text : List Char} :
    (coordinates? text).isSome = true ↔ IsPosition text := by
  have hboth (x y : Option Int32) : (do return (⟨← x, ← y⟩ : Position)).isSome = true ↔
      x.isSome = true ∧ y.isSome = true := by
    cases x <;> cases y <;> simp
  rw [IsPosition, ← isSome_int32?_iff, ← isSome_int32?_iff, coordinates?, Text.cutAt?_eq]
  by_cases hcomma : ',' ∈ text
  · rw [if_pos hcomma]
    exact (hboth _ _).trans (and_iff_right hcomma).symm
  · simp [hcomma]

/-- An argument names no queue, or what it gives is no position. -/
def LacksPosition (argument : String) : Prop :=
  LacksAction argument ∨ ¬IsPosition (givenBy argument)

instance (argument : String) : Decidable (LacksPosition argument) :=
  inferInstanceAs (Decidable (_ ∨ _))

theorem tracking?_eq_none {argument : String} (h : LacksPosition argument) :
    tracking? argument = none := by
  rw [tracking?, assignment?_eq]
  split
  · rfl
  · next haction =>
    have hnone : coordinates? (givenBy argument) = none := by
      rw [← Option.not_isSome_iff_eq_none, isSome_coordinates?_iff]
      exact h.resolve_left haction
    simp [hnone]

theorem exists_tracking?_eq_some {argument : String} (h : ¬LacksPosition argument) :
    ∃ position, tracking? argument = some (actionOf argument, position) := by
  obtain ⟨haction, hposition⟩ := not_or.mp h
  obtain ⟨position, hread⟩ :=
    Option.isSome_iff_exists.mp (isSome_coordinates?_iff.mpr (not_not.mp hposition))
  refine ⟨position, ?_⟩
  rw [tracking?, assignment?_eq, if_neg haction]
  simp [hread]

/-! ## Notes -/

namespace Note

/-- The note tells of something that happened. -/
def isInfo : Note → Bool
  | info _ => true
  | _ => false

/-- The note tells of something that was passed over. -/
def isWarning : Note → Bool
  | warn _ => true
  | _ => false

/-- A note that warns is not one that tells what happened. -/
theorem isInfo_of_isWarning {note : Note} (h : note.isWarning = true) : note.isInfo = false := by
  cases note with
  | warn => rfl
  | info | error => cases h

/-- There are no sprites of this kind. -/
def unknownKind (kind : String) : Note :=
  warn ("Unknown sprite kind " ++ Text.quoted kind ++ ", skipped")

/-- There is no sprite with this number. -/
def missingSprite (number : Nat) : Note :=
  warn ("No sprite #" ++ toString number ++ ", tab not added")

/-- An argument names no queue to append to. -/
def ignoredMotion (argument : String) : Note :=
  warn ("Ignoring motion " ++ Text.quoted argument ++ ": expected ACTION=COMMAND")

/-- An argument is no tab with a position, or there is no such tab. -/
def ignoredTrack (argument : String) : Note :=
  if LacksPosition argument then
    warn ("Ignoring track " ++ Text.quoted argument ++ ": expected ACTION=X,Y")
  else warn ("No action tab " ++ toString (actionOf argument) ++ ", tracked position ignored")

theorem isWarning_ignoredTrack (argument : String) : (ignoredTrack argument).isWarning = true := by
  rw [ignoredTrack]
  split <;> rfl

end Note

/-! ## Working off arguments -/

/-- Tracking a tab neither adds nor removes one. -/
theorem Stage.tab?_track?_eq_none_iff {stage stage' : Stage} {id : ActionId}
    {position : Option Position} (h : stage.track? id position = some stage') (other : ActionId) :
    stage'.tab? other = none ↔ stage.tab? other = none := by
  obtain ⟨slot, -, h⟩ := Option.bind_eq_some_iff.mp h
  obtain ⟨board, hboard, h⟩ := Option.bind_eq_some_iff.mp h
  obtain ⟨-, -, rfl⟩ := Option.map_eq_some_iff.mp hboard
  obtain rfl := Option.some.inj h
  rw [tab?, tab?]
  cases stage.index.slotOf? other with
  | none => rfl
  | some slot' =>
    rw [Option.bind_eq_bind, Option.bind_some, Option.bind_some, ← Option.not_isSome_iff_eq_none,
      ← Option.not_isSome_iff_eq_none, Board.tab?, Board.tab?,
      isSome_lookup_iff, isSome_lookup_iff, Board.map_rows_modify]

namespace Setup

/-- Two setups have the same stage, and the same happened in them. -/
structure Alike (setup setup' : Setup) : Prop where
  /-- Both have come to the same stage. -/
  stage : setup'.stage = setup.stage
  /-- Both have noted that the same happened. -/
  infos : setup'.notes.filter Note.isInfo = setup.notes.filter Note.isInfo

/-- Of the arguments for the stages in `known`, some are rejected. Each of these leaves its warning
and does nothing else. Any other argument leaves no warning, and what it does depends on the stage
alone, which stays in `known`. -/
structure Screens {α : Type} (known : Stage → Prop) (rejects : α → Bool) (warning : α → Note)
    (argument : Setup → α → Setup) : Prop where
  /-- The warnings are warnings. -/
  isWarning : ∀ a, (warning a).isWarning = true
  /-- A rejected argument leaves its warning. -/
  rejected : ∀ setup a, known setup.stage → rejects a = true →
    argument setup a = setup.note (warning a)
  /-- Any other argument changes the stage and notes what happened. -/
  heeded : ∀ stage a, known stage → rejects a = false → ∃ stage' infos,
    known stage' ∧ (∀ note ∈ infos, note.isInfo = true) ∧
      ∀ notes, argument ⟨stage, notes⟩ a = ⟨stage', notes ++ infos⟩

section Screens

variable {α : Type} {known : Stage → Prop} {rejects : α → Bool} {warning : α → Note}
  {argument : Setup → α → Setup} {setup setup' : Setup}

/-- One argument keeps setups alike, also if it is left out in the second one because it is
rejected. -/
theorem Screens.step (h : Screens known rejects warning argument) (hknown : known setup.stage)
    (halike : Alike setup setup') (a : α) :
    known (argument setup a).stage ∧
      Alike (argument setup a) (if rejects a then setup' else argument setup' a) ∧
      (argument setup a).notes.filter Note.isWarning =
        setup.notes.filter Note.isWarning ++ if rejects a then [warning a] else [] := by
  cases hrejects : rejects a with
  | true =>
    have hwarning := h.isWarning a
    have hinfo := Note.isInfo_of_isWarning hwarning
    rw [h.rejected setup a hknown hrejects, if_pos rfl, if_pos rfl]
    refine ⟨hknown, ⟨halike.stage, ?_⟩, ?_⟩
    · simpa [note, hinfo] using halike.infos
    · simp [note, hwarning]
  | false =>
    obtain ⟨stage, infos, hstage, hinfos, hargument⟩ := h.heeded setup.stage a hknown hrejects
    have hsetup : argument setup a = ⟨stage, setup.notes ++ infos⟩ := hargument setup.notes
    have hsetup' : argument setup' a = ⟨stage, setup'.notes ++ infos⟩ := by
      rw [← hargument setup'.notes, ← halike.stage]
    have hwarnings : infos.filter Note.isWarning = [] :=
      List.filter_eq_nil_iff.mpr fun note hnote hwarning =>
        absurd (hinfos note hnote) (by simp [Note.isInfo_of_isWarning hwarning])
    rw [hsetup, if_neg Bool.false_ne_true, if_neg Bool.false_ne_true, hsetup']
    refine ⟨hstage, ⟨rfl, ?_⟩, ?_⟩
    · rw [List.filter_append, List.filter_append, halike.infos]
    · rw [List.filter_append, hwarnings]

/-- Rejected arguments can be left out of those that are worked off. Each of them leaves one
warning. -/
theorem Screens.foldl (h : Screens known rejects warning argument) (arguments : List α)
    (hknown : known setup.stage) (halike : Alike setup setup') :
    Alike (arguments.foldl argument setup)
        ((arguments.filter (!rejects ·)).foldl argument setup') ∧
      (arguments.foldl argument setup).notes.filter Note.isWarning =
        setup.notes.filter Note.isWarning ++ (arguments.filter rejects).map warning := by
  -- The two runs stay alike, so it is enough to know the stages of the first one.
  induction arguments generalizing setup setup' with
  | nil => exact ⟨halike, (List.append_nil _).symm⟩
  | cons a arguments ih =>
    obtain ⟨hstage, hnext, hwarning⟩ := h.step hknown halike a
    obtain ⟨hsame, hwarnings⟩ := ih hstage hnext
    rw [List.foldl_cons, hwarnings, hwarning]
    cases hrejects : rejects a with
    | true => simpa [hrejects] using hsame
    | false => simpa [hrejects] using hsame

end Screens

/-! ## The four kinds of arguments -/

theorem screens_spriteArgument :
    Screens (fun _ => True) (fun kind => (SpriteKind.ofName? kind).isNone) Note.unknownKind
      spriteArgument where
  isWarning _ := rfl
  rejected setup kind _ hrejects := by
    rw [spriteArgument, Option.isNone_iff_eq_none.mp hrejects, Note.unknownKind]
  heeded stage kind _ hrejects := by
    obtain ⟨kind', hkind⟩ := Option.isSome_iff_exists.mp (Option.isNone_eq_false_iff.mp hrejects)
    refine ⟨(stage.addSprite kind').2, [.added kind' (stage.addSprite kind').1.id], trivial,
      List.forall_mem_singleton.mpr rfl, fun notes => ?_⟩
    rw [spriteArgument, hkind]
    rfl

theorem screens_tabArgument (ids : List SpriteId) :
    Screens (·.cast.ids = ids) (fun number => decide (⟨number⟩ ∉ ids)) Note.missingSprite
      tabArgument where
  isWarning _ := rfl
  rejected setup number hids hrejects := by
    have hnone : setup.stage.addTabFor? ⟨number⟩ = none :=
      Stage.addTabFor?_eq_none_iff.mpr (hids ▸ of_decide_eq_true hrejects)
    rw [tabArgument, hnone, Note.missingSprite]
  heeded stage number hids hrejects := by
    have hcontains : stage.cast.contains ⟨number⟩ = true := by
      rw [Roster.contains_iff_mem_ids, hids]
      simpa using hrejects
    refine ⟨stage.withTab ⟨number⟩, [.addedTab (stage.nextTab ⟨number⟩).id ⟨number⟩], hids,
      List.forall_mem_singleton.mpr rfl, fun notes => ?_⟩
    rw [tabArgument, Stage.addTabFor?_eq, if_pos hcontains]
    rfl

theorem screens_motionArgument :
    Screens (fun _ => True) (fun argument => decide (LacksAction argument)) Note.ignoredMotion
      motionArgument where
  isWarning _ := rfl
  rejected setup argument _ hrejects := by
    rw [motionArgument, assignment?_eq, if_pos (of_decide_eq_true hrejects), Note.ignoredMotion]
  heeded stage argument _ hrejects := by
    refine ⟨stage.append (actionOf argument) (String.ofList (givenBy argument)), [], trivial,
      List.forall_mem_nil _, fun notes => ?_⟩
    rw [motionArgument, assignment?_eq, if_neg (of_decide_eq_false hrejects), List.append_nil]

theorem screens_trackArgument {stage : Stage} (h : stage.OrderlyTabs) :
    Screens (fun later => ∀ id, later.tab? id = none ↔ stage.tab? id = none)
      (fun argument =>
        decide (LacksPosition argument ∨ ∀ tab ∈ stage.tabs, tab.id ≠ actionOf argument))
      Note.ignoredTrack trackArgument where
  isWarning := Note.isWarning_ignoredTrack
  rejected setup argument hknown hrejects := by
    rw [decide_eq_true_eq] at hrejects
    by_cases hunread : LacksPosition argument
    · rw [trackArgument, tracking?_eq_none hunread, Note.ignoredTrack, if_pos hunread]
    · obtain ⟨position, hread⟩ := exists_tracking?_eq_some hunread
      have hnone : setup.stage.track? (actionOf argument) (some position) = none := by
        rw [Stage.track?_eq_none_iff, hknown, h.tab?_eq_none_iff]
        exact hrejects.resolve_left hunread
      simp only [trackArgument, hread, hnone, Note.ignoredTrack, if_neg hunread]
  heeded later argument hknown hrejects := by
    rw [decide_eq_false_iff_not] at hrejects
    obtain ⟨hread, htab⟩ := not_or.mp hrejects
    obtain ⟨position, hread⟩ := exists_tracking?_eq_some hread
    have hsome : later.track? (actionOf argument) (some position) ≠ none := by
      rwa [ne_eq, Stage.track?_eq_none_iff, hknown, h.tab?_eq_none_iff]
    obtain ⟨later', htrack⟩ := Option.ne_none_iff_exists'.mp hsome
    refine ⟨later', [], fun id => (Stage.tab?_track?_eq_none_iff htrack id).trans (hknown id),
      List.forall_mem_nil _, fun notes => ?_⟩
    simp only [trackArgument, hread, htrack, List.append_nil]

/-! ## Building -/

/-- The setup once all sprites are added. -/
def withSprites (settings : Settings) (options : Options) : Setup :=
  options.sprites.foldl spriteArgument (new settings)

/-- The setup once all tabs are added, too. -/
def withTabs (settings : Settings) (options : Options) : Setup :=
  options.tabs.foldl tabArgument (withSprites settings options)

/-- The setup once all commands are appended, too. -/
def withMotions (settings : Settings) (options : Options) : Setup :=
  options.motions.foldl motionArgument (withTabs settings options)

end Setup

namespace Options

/-- The values that are rejected when options build a stage: kinds of sprites that are not known,
tabs for sprites that are not there when tabs are added, commands for no queue, and tracked
positions that are none or that are for tabs that are not there when positions are set. -/
def rejections (options : Options) (settings : Settings) : Rejections where
  sprite kind := (SpriteKind.ofName? kind).isNone
  tab number := ⟨number⟩ ∉ (Setup.withSprites settings options).stage.cast.ids
  motion argument := LacksAction argument
  track argument := LacksPosition argument ∨
    ∀ tab ∈ (Setup.withMotions settings options).stage.tabs, tab.id ≠ actionOf argument

/-- One warning for every rejected value, first for the sprites, then for the tabs, the commands and
the tracked positions. -/
def warnings (options : Options) (settings : Settings) : List Note :=
  let rejections := options.rejections settings
  (options.sprites.filter rejections.sprite).map .unknownKind ++
    (options.tabs.filter rejections.tab).map .missingSprite ++
    (options.motions.filter rejections.motion).map .ignoredMotion ++
    (options.tracks.filter rejections.track).map .ignoredTrack

end Options

namespace Setup

/-- A new stage is no reason to warn. -/
theorem warnings_new (settings : Settings) : (new settings).notes.filter Note.isWarning = [] := by
  refine List.filter_eq_nil_iff.mpr fun note hnote => ?_
  rcases List.mem_append.mp hnote with hnote | hnote <;>
    obtain ⟨_, -, rfl⟩ := List.mem_map.mp hnote <;> exact Bool.false_ne_true

/-- The stage has its tabs in order when positions are set. -/
theorem orderlyTabs_withMotions (settings : Settings) (options : Options) :
    (withMotions settings options).stage.OrderlyTabs := by
  have hstage : (withMotions settings options).stage = Stage.after settings _ :=
    stage_build settings { options with tracks := [] }
  rw [hstage]
  exact Stage.orderlyTabs_after _ _

/-- Without the rejected values the same stage is built, and the same is noted but for one warning
for each of them. -/
theorem alike_build (settings : Settings) (options : Options) :
    Alike (build settings options)
        (build settings (options.without (options.rejections settings))) ∧
      (build settings options).notes.filter Note.isWarning = options.warnings settings := by
  have hnew : Alike (new settings) (new settings) := ⟨rfl, rfl⟩
  obtain ⟨hsprites, hkinds⟩ := screens_spriteArgument.foldl options.sprites trivial hnew
  obtain ⟨htabs, hnumbers⟩ := (screens_tabArgument _).foldl options.tabs rfl hsprites
  obtain ⟨hmotions, hcommands⟩ := screens_motionArgument.foldl options.motions trivial htabs
  obtain ⟨htracks, hpositions⟩ := (screens_trackArgument
    (orderlyTabs_withMotions settings options)).foldl options.tracks (fun _ => Iff.rfl) hmotions
  refine ⟨htracks, hpositions.trans ?_⟩
  rw [withMotions, withTabs, withSprites, hcommands, hnumbers, hkinds, warnings_new]
  rfl

/-- What setups that are alike play comes to the same. -/
theorem Alike.report_play {setup setup' : Setup} (h : Alike setup setup') (json : Bool) :
    (setup'.play json).status = (setup.play json).status ∧
      (setup'.play json).output = (setup.play json).output ∧
      (setup'.play json).notes.filter Note.isInfo = (setup.play json).notes.filter Note.isInfo := by
  obtain ⟨stage, notes⟩ := setup
  obtain ⟨stage', notes'⟩ := setup'
  obtain rfl : stage' = stage := h.stage
  have hinfos : notes'.filter Note.isInfo = notes.filter Note.isInfo := h.infos
  -- What is noted while the stage plays comes after what was noted while it was built.
  have hplay (notes : List Note) : (play ⟨stage', notes⟩ json).notes =
      notes ++ (play ⟨stage', []⟩ json).notes := rfl
  refine ⟨rfl, rfl, ?_⟩
  rw [hplay, hplay notes, List.filter_append, List.filter_append, hinfos]

end Setup

/-! ## Sessions -/

/-- What happened in a session, in order. -/
def Report.infos (report : Report) : List Note := report.notes.filter Note.isInfo

namespace Options

/-- Rejected values have no effect. Where arguments give options, and these ask for a stage, all
values that are rejected can be struck out of the arguments: what is left gives the other values,
the same status, the same output, and the same happens. Building the stage leaves one warning for
each rejected value, in the order of sprites, tabs, commands and tracked positions. Where arguments
ask for help or for the version, it does not matter which values are struck out. -/
theorem rejected_values_have_no_effect (folder : Folder) (arguments : List String) :
    (∀ options, ofArguments arguments = .ok options → options.writeConfig = none →
      let settings := (options.settings (folder.read options.configPath)).1
      let rejections := options.rejections settings
      let remaining := rejections.strike arguments
      remaining.Sublist arguments ∧ ofArguments remaining = .ok (options.without rejections) ∧
      (folder.run remaining).1.status = (folder.run arguments).1.status ∧
      (folder.run remaining).1.output = (folder.run arguments).1.output ∧
      (folder.run remaining).1.infos = (folder.run arguments).1.infos ∧
      (Setup.build settings options).notes.filter Note.isWarning = options.warnings settings) ∧
    ∀ stop, ofArguments arguments = .error stop → stop ≠ .usage →
      ∀ rejections : Rejections,
        folder.run (rejections.strike arguments) = folder.run arguments := by
  constructor
  · intro options hread hplays settings rejections remaining
    have hremaining : ofArguments remaining = .ok (options.without rejections) := by
      rw [ofArguments_strike rejections (by rw [hread]; exact nofun), hread]
      rfl
    obtain ⟨halike, hwarnings⟩ := Setup.alike_build settings options
    obtain ⟨hstatus, houtput, hinfos⟩ := halike.report_play options.json
    -- Both runs load the same settings and note the same of them.
    have hrun := run_eq folder hread hplays
    have hrun' := run_eq folder hremaining hplays
    refine ⟨rejections.strike_sublist arguments, hremaining, ?_, ?_, ?_, hwarnings⟩
    · rw [hrun, hrun']
      exact hstatus
    · rw [hrun, hrun']
      exact houtput
    · rw [hrun, hrun', Report.infos, Report.infos, List.filter_append, List.filter_append]
      exact congrArg _ hinfos
  · intro stop hread hstop rejections
    have haccepted : ofArguments arguments ≠ .error .usage := by
      rw [hread]
      exact fun h => hstop (Except.error.inj h)
    rw [Folder.run, ofArguments_strike rejections haccepted, Folder.run, hread]
    rfl

/-- There are no dogs, no sprite 7 and no tab 9, a stage does not reach that far, and neither blanks
nor a word alone name a queue. None of that is missed, nor is a dog by one who asks for help. -/
theorem dogs_are_passed_over :
    let arguments := ["--sprite", "dog", "--sprite=earth", "--tab", "2", "--tab=7", "--motion",
      " =Move Right 5", "--motion", "2=Move Right 5", "--motion", "nothing", "--track", "9=1,2",
      "--track=2=3,4", "--track", "2=1,3000000000"]
    let options : Options :=
      { sprites := ["dog", "earth"], tabs := [2, 7]
        motions := [" =Move Right 5", "2=Move Right 5", "nothing"]
        tracks := ["9=1,2", "2=3,4", "2=1,3000000000"] }
    let remaining := ["--sprite=earth", "--tab", "2", "--motion", "2=Move Right 5", "--track=2=3,4"]
    let settings := (options.settings (Folder.read [] options.configPath)).1
    (ofArguments arguments = .ok options ∧ options.writeConfig = none) ∧
    (options.rejections settings).strike arguments = remaining ∧
    (Folder.run [] remaining).1.output = (Folder.run [] arguments).1.output ∧
    (Folder.run [] remaining).1.infos = (Folder.run [] arguments).1.infos ∧
    (Setup.build settings options).notes.filter Note.isWarning =
      [.unknownKind "dog", .missingSprite 7, .ignoredMotion " =Move Right 5",
        .ignoredMotion "nothing", .ignoredTrack "9=1,2", .ignoredTrack "2=1,3000000000"] ∧
    (ofArguments ["--sprite", "dog", "--help"] = .error .help ∧ Stop.help ≠ .usage) ∧
    (options.rejections settings).strike ["--sprite", "dog", "--help"] = ["--help"] ∧
    Folder.run [] ["--help"] = Folder.run [] ["--sprite", "dog", "--help"] := by
  intro arguments options remaining settings
  have hread : ofArguments arguments = .ok options := by decide +kernel
  have hstrike : (options.rejections settings).strike arguments = remaining := by decide +kernel
  have hkinds : options.sprites.filter (options.rejections settings).sprite = ["dog"] := by
    decide +kernel
  have hnumbers : options.tabs.filter (options.rejections settings).tab = [7] := by
    decide +kernel
  have hcommands : options.motions.filter (options.rejections settings).motion =
      [" =Move Right 5", "nothing"] := by
    decide +kernel
  have hpositions : options.tracks.filter (options.rejections settings).track =
      ["9=1,2", "2=1,3000000000"] := by
    decide +kernel
  have hhelp : ofArguments ["--sprite", "dog", "--help"] = .error .help := by decide +kernel
  have hdog : (options.rejections settings).strike ["--sprite", "dog", "--help"] = ["--help"] := by
    decide +kernel
  obtain ⟨-, -, -, houtput, hinfos, hnotes⟩ :=
    (rejected_values_have_no_effect [] arguments).1 options hread rfl
  have hrun := (rejected_values_have_no_effect [] ["--sprite", "dog", "--help"]).2 .help hhelp nofun
    (options.rejections settings)
  rw [hdog] at hrun
  rw [warnings, hkinds, hnumbers, hcommands, hpositions] at hnotes
  rw [hstrike] at houtput hinfos
  exact ⟨⟨hread, rfl⟩, hstrike, houtput, hinfos, hnotes, ⟨hhelp, nofun⟩, hdog, hrun⟩

end Options

end SpriteStage
