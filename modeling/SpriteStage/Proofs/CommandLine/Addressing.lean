import SpriteStage.Proofs.CommandLine.RejectedValues
import SpriteStage.Proofs.Motion.WrittenForm
import SpriteStage.Proofs.Stage.TrackedPositions

/-!
# Tabs that arguments address

An argument names a tab before its first equals sign, and behind it gives a position or a command.
Ids of tabs and written numbers have neither blanks nor separators in them, so that every tab can be
named, every position given, and any command, whatever it is made of. The module introduces:

* `IsPlain`: texts of digits and dashes, as are the ids of tabs and written numbers;
* `assignment?_of_padded` and `tracking?_of_padded`: what is read from an argument with blanks
  around all its parts;
* `Options.positionsFor options id`: the positions that options give to a tab, in their order, and
  `Setup.tracked?_build`: a tab is tracked at the last of them;
* `Setup.tracked?_build_of_tracking` and `Setup.get_queues_build_of_assignment`: what one argument
  does among others.

The main statement is `arguments_address_tabs`.
-/

namespace SpriteStage

/-! ## Texts of digits and dashes -/

/-- The text is made of digits and dashes. -/
structure IsPlain (text : List Char) : Prop where
  ne_nil : text ≠ []
  plain : ∀ c ∈ text, isDecimalDigit c = true ∨ c = '-'

namespace IsPlain

variable {text padded : List Char}

theorem isBlank_eq_false (h : IsPlain text) : ∀ c ∈ text, isBlank c = false := by
  intro c hc
  rcases h.plain c hc with hdigit | rfl
  · exact isBlank_of_isDecimalDigit hdigit
  · decide

theorem hasBareEnds (h : IsPlain text) : HasBareEnds text := .of_forall h.isBlank_eq_false

theorem trimBlanks_eq (h : IsPlain text) (hpadded : Padded text padded) :
    trimBlanks padded = text :=
  trimBlanks_of_padded hpadded h.hasBareEnds

/-- A separator is not found in the text, even with blanks around it. -/
theorem not_mem_padded (h : IsPlain text) (hpadded : Padded text padded) {c : Char}
    (hc : isDecimalDigit c = false ∧ c ≠ '-' ∧ isBlank c = false) : c ∉ padded := by
  obtain ⟨before, after, hbefore, hafter, rfl⟩ := hpadded
  obtain ⟨hdigit, hdash, hblank⟩ := hc
  simp only [List.mem_append, not_or]
  refine ⟨⟨fun hmem => ?_, fun hmem => ?_⟩, fun hmem => ?_⟩
  · simp [hbefore c hmem] at hblank
  · simpa [hdigit, hdash] using h.plain c hmem
  · simp [hafter c hmem] at hblank

end IsPlain

/-- The id of a tab starts with a digit. -/
theorem ActionId.exists_forTab_eq_cons (sprite : SpriteId) (k : Nat) :
    ∃ c rest, (forTab sprite k).text.toList = c :: rest ∧ isDecimalDigit c = true ∧
      ∀ d ∈ rest, isDecimalDigit d = true ∨ d = '-' := by
  obtain ⟨hne, hdigits⟩ := Motion.isRun_toDigits sprite.number
  obtain ⟨c, rest, hnumber⟩ := List.exists_cons_of_ne_nil hne
  have hsprite : (toString sprite).toList = c :: rest := Nat.toList_repr.trans hnumber
  rw [hnumber] at hdigits
  rw [forTab]
  split
  · exact ⟨c, rest, hsprite, hdigits c (.head _), fun d hd => .inl (hdigits d (.tail _ hd))⟩
  -- The ids of later tabs start like the id of the first one.
  · have htext : (toString sprite ++ "-" ++ toString k).toList =
        c :: (rest ++ '-' :: (toString k).toList) := by
      rw [String.toList_append, String.toList_append, hsprite, List.append_assoc]
      rfl
    refine ⟨c, _, htext, hdigits c (.head _), fun d hd => ?_⟩
    rcases List.mem_append.mp hd with hd | hd
    · exact .inl (hdigits d (.tail _ hd))
    · refine (List.mem_cons.mp hd).symm.imp_left fun hd => ?_
      have hplace : (toString k).toList = Nat.toDigits 10 k := Nat.toList_repr
      exact (Motion.isRun_toDigits k).2 d (hplace ▸ hd)

theorem isPlain_forTab (sprite : SpriteId) (k : Nat) :
    IsPlain (ActionId.forTab sprite k).text.toList := by
  obtain ⟨c, rest, htext, hdigit, hrest⟩ := ActionId.exists_forTab_eq_cons sprite k
  rw [htext]
  exact ⟨List.cons_ne_nil c rest, List.forall_mem_cons.mpr ⟨.inl hdigit, hrest⟩⟩

theorem isPlain_numeral (n : Int) : IsPlain (Motion.numeral n) := by
  obtain ⟨digits, ⟨hne, hdigits⟩, heq | heq⟩ := Motion.isSignedRun_numeral n
  · rw [heq]
    exact ⟨hne, fun c hc => .inl (hdigits c hc)⟩
  · rw [heq]
    exact ⟨List.cons_ne_nil _ _,
      List.forall_mem_cons.mpr ⟨.inr rfl, fun c hc => .inl (hdigits c hc)⟩⟩

/-! ## Arguments with blanks around their parts -/

/-- Where an id is plain, it is read with all that stands behind the first equals sign. -/
theorem assignment?_of_padded {id : ActionId} (hid : IsPlain id.text.toList) {key : List Char}
    (hkey : Padded id.text.toList key) (value : List Char) :
    assignment? (String.ofList (key ++ '=' :: value)) = some (id, trimBlanks value) := by
  have hsign : '=' ∉ key := hid.not_mem_padded hkey (by decide)
  have hcut : Text.cutAt? (· = '=') (key ++ '=' :: value) = some (key, value) :=
    Text.cutAt?_append (fun c hc => decide_eq_false fun heq => hsign (heq ▸ hc)) rfl
  rw [assignment?, String.toList_ofList, hcut]
  simp [hid.trimBlanks_eq hkey, hid.ne_nil]

/-- A number is read as it was written. -/
theorem int32?_numeral (x : Int32) : Text.int32? (Motion.numeral x.toInt) = some x :=
  (Motion.int32?_eq_some_iff (Motion.isSignedRun_numeral _)).mpr (Motion.denotes_numeral _)

theorem coordinates?_of_padded {x y : Int32} {first second : List Char}
    (hx : Padded (Motion.numeral x.toInt) first) (hy : Padded (Motion.numeral y.toInt) second) :
    coordinates? (trimBlanks (first ++ ',' :: second)) = some ⟨x, y⟩ := by
  have hplain := isPlain_numeral x.toInt
  have hplain' := isPlain_numeral y.toInt
  obtain ⟨before, inner, hbefore, hinner, rfl⟩ := hx
  obtain ⟨inner', after, hinner', hafter, rfl⟩ := hy
  have htrim : trimBlanks (before ++ Motion.numeral x.toInt ++ inner ++
        ',' :: (inner' ++ Motion.numeral y.toInt ++ after)) =
      Motion.numeral x.toInt ++ (inner ++ ',' :: inner') ++ Motion.numeral y.toInt :=
    trimBlanks_of_padded ⟨before, after, hbefore, hafter, by simp⟩
      (hplain.hasBareEnds.between hplain'.hasBareEnds hplain.ne_nil hplain'.ne_nil _)
  -- The blanks next to the comma are still there, and are trimmed after the cut.
  have hfirst : Padded (Motion.numeral x.toInt) (Motion.numeral x.toInt ++ inner) :=
    ⟨[], inner, nofun, hinner, rfl⟩
  have hsecond : Padded (Motion.numeral y.toInt) (inner' ++ Motion.numeral y.toInt) :=
    ⟨inner', [], hinner', nofun, (List.append_nil _).symm⟩
  have hcomma : ',' ∉ Motion.numeral x.toInt ++ inner :=
    hplain.not_mem_padded hfirst (by decide)
  have hcut : Text.cutAt? (· = ',')
        (Motion.numeral x.toInt ++ inner ++ ',' :: (inner' ++ Motion.numeral y.toInt)) =
      some (Motion.numeral x.toInt ++ inner, inner' ++ Motion.numeral y.toInt) :=
    Text.cutAt?_append (fun c hc => decide_eq_false fun heq => hcomma (heq ▸ hc)) rfl
  have hregroup : Motion.numeral x.toInt ++ (inner ++ ',' :: inner') ++ Motion.numeral y.toInt =
      Motion.numeral x.toInt ++ inner ++ ',' :: (inner' ++ Motion.numeral y.toInt) := by simp
  rw [coordinates?, htrim, hregroup, hcut]
  simp [hplain.trimBlanks_eq hfirst, hplain'.trimBlanks_eq hsecond, int32?_numeral]

/-- An id and two coordinates are read, whatever blanks are around them. -/
theorem tracking?_of_padded {id : ActionId} (hid : IsPlain id.text.toList) {x y : Int32}
    {key first second : List Char} (hkey : Padded id.text.toList key)
    (hx : Padded (Motion.numeral x.toInt) first) (hy : Padded (Motion.numeral y.toInt) second) :
    tracking? (String.ofList (key ++ '=' :: (first ++ ',' :: second))) = some (id, ⟨x, y⟩) := by
  rw [tracking?, assignment?_of_padded hid hkey]
  simp [coordinates?_of_padded hx hy]

/-! ## Values of options -/

namespace Options

/-- An argument that starts with an id is no option, so it can be the value of one. -/
theorem isValue_of_padded {sprite : SpriteId} {k : Nat} {key : List Char}
    (hkey : Padded (ActionId.forTab sprite k).text.toList key) (value : List Char) :
    isValue (String.ofList (key ++ value)) = true := by
  obtain ⟨before, after, hbefore, -, rfl⟩ := hkey
  obtain ⟨c, rest, htext, hdigit, -⟩ := ActionId.exists_forTab_eq_cons sprite k
  have hhead : (before ++ (c :: rest) ++ after ++ value).head? ≠ some '-' := by
    cases before with
    | nil =>
      rintro ⟨⟩
      exact absurd hdigit (by decide)
    | cons d before =>
      rintro ⟨⟩
      exact absurd (hbefore '-' (.head _)) (by decide)
  rw [isValue, String.toList_ofList, htext]
  exact (Bool.or_eq_true _ _).mpr (.inr (decide_eq_true hhead))

/-- An argument that can be a value goes to the tracked positions, or to the commands. -/
theorem read_value {argument : String} (h : isValue argument = true) (options : Options)
    (rest : List String) :
    read options ("--track" :: argument :: rest) =
        read { options with tracks := options.tracks ++ [argument] } rest ∧
      read options ("--motion" :: argument :: rest) =
        read { options with motions := options.motions ++ [argument] } rest := by
  have htrack : Argument.of "--track" = .long "track" := by decide
  have hmotion : Argument.of "--motion" = .long "motion" := by decide
  constructor
  · rw [read, htrack]
    simp [Key.ofName?, h, assign?]
  · rw [read, hmotion]
    simp [Key.ofName?, h, assign?]

end Options

/-! ## Positions of a stage that is built -/

/-- The position that an argument gives to a tab. -/
def positionFor? (id : ActionId) (argument : String) : Option Position := do
  let (id', position) ← tracking? argument
  if id' = id then some position else none

theorem positionFor?_eq_some {id : ActionId} {argument : String} {position : Position}
    (h : tracking? argument = some (id, position)) : positionFor? id argument = some position := by
  simp [positionFor?, h]

/-- An argument for another tab gives no position to this one. -/
theorem positionFor?_eq_none {id : ActionId} {argument : String}
    (h : ∀ position, tracking? argument ≠ some (id, position)) :
    positionFor? id argument = none := by
  rw [positionFor?]
  cases hread : tracking? argument with
  | none => rfl
  | some tracking =>
    obtain ⟨target, position⟩ := tracking
    exact if_neg fun heq : target = id => h position (heq ▸ hread)

/-- The positions that options give to a tab, in their order. -/
def Options.positionsFor (options : Options) (id : ActionId) : List Position :=
  options.tracks.filterMap (positionFor? id)

/-- Tracking a tab neither adds nor removes one, nor does failing to. -/
theorem Stage.isSome_tab?_perform_track (stage : Stage) (target id : ActionId)
    (position : Option Position) :
    ((stage.perform (.track target position)).stage.tab? id).isSome =
      (stage.tab? id).isSome := by
  rw [perform, attempt]
  cases htrack : stage.track? target position with
  | none => rfl
  | some stage' =>
    rw [Bool.eq_iff_iff, Option.isSome_iff_ne_none, Option.isSome_iff_ne_none]
    exact not_congr (tab?_track?_eq_none_iff htrack id)

namespace Setup

/-- The last argument for a tracked position comes last. -/
theorem build_concat_track (settings : Settings) (options : Options) (tracks : List String)
    (argument : String) :
    build settings { options with tracks := tracks ++ [argument] } =
      (build settings { options with tracks }).trackArgument argument :=
  List.foldl_append

/-- Before positions are given, no tab has one. -/
theorem tracked?_build_nil (settings : Settings) (options : Options) (id : ActionId) :
    (build settings { options with tracks := [] }).stage.tracked? id = none := by
  have hcalls : ∀ call ∈ Stage.setup settings ++ Options.calls { options with tracks := [] },
      call.isEdit = true ∧ (∀ position, call ≠ .track id position) ∧ call ≠ .removeTab id := by
    refine List.forall_mem_append.mpr ⟨?_, fun call hcall => ?_⟩
    · rw [Stage.setup]
      split <;> simp [Call.isEdit]
    · refine ⟨Call.isEdit_of_builds (Options.builds_of_mem_calls hcall), ?_⟩
      simp only [Options.calls, List.mem_append, List.mem_filterMap, List.mem_map, spriteCall?,
        tabCall, motionCall?, Option.map_eq_some_iff, List.not_mem_nil, false_and, exists_false,
        or_false] at hcall
      obtain (⟨_, -, _, -, rfl⟩ | ⟨_, -, rfl⟩) | ⟨_, -, _, -, rfl⟩ := hcall
      · simp
      · simp
      · simp
  rw [stage_build, Stage.after_eq_performAll,
    Stage.tracked?_performAll (Stage.orderlyTabs_bare settings) hcalls]
  rfl

/-- One argument gives its position to its tab, and to no other. -/
theorem tracked?_trackArgument {setup : Setup} (h : setup.stage.OrderlyTabs) (argument : String)
    (id : ActionId) :
    ((setup.trackArgument argument).stage.tab? id).isSome = (setup.stage.tab? id).isSome ∧
    (setup.trackArgument argument).stage.tracked? id =
      if (setup.stage.tab? id).isSome then
        (positionFor? id argument).or (setup.stage.tracked? id)
      else none := by
  have hnone (htab : ¬(setup.stage.tab? id).isSome = true) : setup.stage.tracked? id = none := by
    rw [Stage.tracked?, Option.not_isSome_iff_eq_none.mp htab]
    rfl
  rw [stage_trackArgument, trackCall?, positionFor?]
  cases tracking? argument with
  | none =>
    -- Nothing is done, and what has no tab had no position before.
    refine ⟨rfl, ?_⟩
    split
    · rfl
    · next htab => exact hnone htab
  | some tracking =>
    obtain ⟨target, position⟩ := tracking
    refine ⟨?_, ?_⟩
    · exact Stage.isSome_tab?_perform_track setup.stage target id (some position)
    · refine (Stage.tracked?_perform_track h target (some position) id).trans ?_
      by_cases htab : (setup.stage.tab? id).isSome = true
      · by_cases hid : target = id
        · simp [htab, hid]
        · simp [htab, hid, Ne.symm hid]
      · simp [htab, hnone htab]

/-- Positions are given to the tabs that are there without them, and a tab is tracked at the last
one that it is given. -/
theorem tracked?_build (settings : Settings) (options : Options) (id : ActionId) :
    let stage := (build settings options).stage
    (stage.tab? id).isSome =
      ((build settings { options with tracks := [] }).stage.tab? id).isSome ∧
    stage.tracked? id =
      if (stage.tab? id).isSome then (options.positionsFor id).getLast? else none := by
  have hrun (tracks : List String) :
      let stage := (build settings { options with tracks }).stage
      (stage.tab? id).isSome =
        ((build settings { options with tracks := [] }).stage.tab? id).isSome ∧
      stage.tracked? id =
        if (stage.tab? id).isSome then (tracks.filterMap (positionFor? id)).getLast? else none := by
    -- The last argument works on the stage that all others build.
    induction tracks using List.reverseRecOn with
    | nil =>
      refine ⟨rfl, (tracked?_build_nil settings options id).trans ?_⟩
      rw [List.filterMap_nil, List.getLast?_nil, ite_self]
    | append_singleton tracks argument ih =>
      have horderly : (build settings { options with tracks }).stage.OrderlyTabs := by
        rw [stage_build]
        exact Stage.orderlyTabs_after _ _
      obtain ⟨htab, htracked⟩ := tracked?_trackArgument horderly argument id
      obtain ⟨htabs, hpositions⟩ := ih
      rw [build_concat_track]
      refine ⟨htab.trans htabs, htracked.trans ?_⟩
      have hlast : ([argument].filterMap (positionFor? id)).getLast? =
          positionFor? id argument := by
        rw [List.filterMap_cons, List.filterMap_nil]
        cases positionFor? id argument <;> rfl
      rw [htab, hpositions, List.filterMap_append, List.getLast?_append, hlast]
      split
      · rfl
      · rfl
  exact hrun options.tracks

section Given

variable {argument : String} {id : ActionId} (settings : Settings) (options : Options)
  (later : List String)

/-- An argument that gives a position to a tab leaves it there, if no later one is about that tab,
and changes no other tab. -/
theorem tracked?_build_of_tracking {position : Position}
    (hread : tracking? argument = some (id, position)) :
    let stage :=
      (build settings { options with tracks := options.tracks ++ argument :: later }).stage
    let without := (build settings { options with tracks := options.tracks ++ later }).stage
    ((without.tab? id).isSome = true →
      (∀ other ∈ later, ∀ position, tracking? other ≠ some (id, position)) →
      stage.tracked? id = some position) ∧
    ∀ other, other ≠ id → stage.tracked? other = without.tracked? other := by
  intro stage without
  have hbuilt := tracked?_build settings
    { options with tracks := options.tracks ++ argument :: later }
  have hbuilt' := tracked?_build settings { options with tracks := options.tracks ++ later }
  refine ⟨fun htab hlater => ?_, fun other hother => ?_⟩
  · -- Nothing comes after its position, so this is the last one.
    have hnone : later.filterMap (positionFor? id) = [] :=
      List.filterMap_eq_nil_iff.mpr fun other hmem => positionFor?_eq_none (hlater other hmem)
    have htab' : (stage.tab? id).isSome = true :=
      (hbuilt id).1.trans ((hbuilt' id).1.symm.trans htab)
    rw [(hbuilt id).2, if_pos htab', Options.positionsFor, List.filterMap_append,
      List.filterMap_cons_some (positionFor?_eq_some hread), hnone, List.getLast?_concat]
  · have hnone : positionFor? other argument = none := by
      refine positionFor?_eq_none fun position' hother' => hother ?_
      rw [hread] at hother'
      exact (congrArg Prod.fst (Option.some.inj hother')).symm
    obtain ⟨htab, htracked⟩ := hbuilt other
    obtain ⟨htab', htracked'⟩ := hbuilt' other
    rw [htracked, htracked', htab, htab', Options.positionsFor, Options.positionsFor,
      List.filterMap_append, List.filterMap_cons_none hnone, List.filterMap_append]

/-- An argument that gives a command to a queue puts it in its place among the others for that
queue, and changes no other queue. -/
theorem get_queues_build_of_assignment {command : List Char}
    (hread : assignment? argument = some (id, command)) :
    let stage :=
      (build settings { options with motions := options.motions ++ argument :: later }).stage
    let without := (build settings { options with motions := options.motions ++ later }).stage
    stage.queues.get id = options.commandsFor id ++
      String.ofList command :: Options.commandsFor { options with motions := later } id ∧
    ∀ other, other ≠ id → stage.queues.get other = without.queues.get other := by
  intro stage without
  have hqueue (options : Options) (id : ActionId) :
      (build settings options).stage.queues.get id = options.commandsFor id := by
    rw [stage_build, Stage.get_queues_build]
  refine ⟨?_, fun other hother => ?_⟩
  · rw [hqueue, Options.commandsFor, List.filterMap_append, List.filterMap_cons_some]
    · rfl
    · simp [hread]
  · rw [hqueue, hqueue, Options.commandsFor, Options.commandsFor, List.filterMap_append,
      List.filterMap_cons_none, List.filterMap_append]
    simp [hread, hother.symm]

end Given

end Setup

/-! ## Main statement -/

/-- Every tab, every position and every command can be given in an argument. Take the id of any tab
with any blanks around it, and an equals sign behind it: whatever follows, the argument can be the
value of an option. If two numbers of 32 bits follow in decimal, with a comma between them and
blanks around each, and the stage that other arguments build has a tab of that id, then with this
argument among them that tab is tracked at exactly these coordinates, unless a later argument gives
it others; and all other tabs are where they are without it. If any text follows, with equals signs
and commas or not, then the queue of that id gets exactly this text without the blanks at its ends,
in its place among the commands of the other arguments; and all other queues are what they are
without it. -/
theorem arguments_address_tabs (sprite : SpriteId) (k : Nat) {key : List Char}
    (hkey : Padded (ActionId.forTab sprite k).text.toList key) :
    let id := ActionId.forTab sprite k
    (∀ value options rest, let argument := String.ofList (key ++ '=' :: value)
      Options.read options ("--track" :: argument :: rest) =
        Options.read { options with tracks := options.tracks ++ [argument] } rest ∧
      Options.read options ("--motion" :: argument :: rest) =
        Options.read { options with motions := options.motions ++ [argument] } rest) ∧
    (∀ (x y : Int32) (first second : List Char), Padded (toString x.toInt).toList first →
      Padded (toString y.toInt).toList second →
      let argument := String.ofList (key ++ '=' :: (first ++ ',' :: second))
      ∀ (settings : Settings) (options : Options) (later : List String),
        let stage := (Setup.build settings
          { options with tracks := options.tracks ++ argument :: later }).stage
        let without := (Setup.build settings
          { options with tracks := options.tracks ++ later }).stage
        ((without.tab? id).isSome = true →
          (∀ other ∈ later, ∀ position, tracking? other ≠ some (id, position)) →
          stage.tracked? id = some ⟨x, y⟩) ∧
        ∀ other, other ≠ id → stage.tracked? other = without.tracked? other) ∧
    ∀ command : List Char, let kept := trimBlanks command
      let argument := String.ofList (key ++ '=' :: command)
      (HasBareEnds kept ∧ Padded kept command) ∧
      ∀ (settings : Settings) (options : Options) (later : List String),
        let stage := (Setup.build settings
          { options with motions := options.motions ++ argument :: later }).stage
        let without := (Setup.build settings
          { options with motions := options.motions ++ later }).stage
        stage.queues.get id = options.commandsFor id ++
          String.ofList kept :: Options.commandsFor { options with motions := later } id ∧
        ∀ other, other ≠ id → stage.queues.get other = without.queues.get other := by
  intro id
  have hid : IsPlain id.text.toList := isPlain_forTab sprite k
  refine ⟨fun value options rest => ?_, fun x y first second hx hy => ?_, fun command => ?_⟩
  · exact Options.read_value (Options.isValue_of_padded hkey _) options rest
  · intro argument settings options later
    have hread : tracking? argument = some (id, ⟨x, y⟩) := tracking?_of_padded hid hkey hx hy
    exact Setup.tracked?_build_of_tracking settings options later hread
  · intro kept argument
    have hread : assignment? argument = some (id, kept) := assignment?_of_padded hid hkey command
    refine ⟨⟨hasBareEnds_trimBlanks command, padded_trimBlanks command⟩, ?_⟩
    intro settings options later
    exact Setup.get_queues_build_of_assignment settings options later hread

/-- The second tab of the cat is put at the two ends of the range of coordinates, and gets a command
with an equals sign and a comma in it. Blanks of many kinds are around the parts of both
arguments. -/
theorem second_tab_is_addressed :
    let id : ActionId := ⟨"1-2"⟩
    let key := " 1-2\u00a0".toList
    let track := String.ofList
      (key ++ '=' :: ("\t-2147483648 ".toList ++ ',' :: "\u30002147483647".toList))
    let motion := String.ofList (key ++ '=' :: "\u2003Go = 1, 2 \u0085".toList)
    let options : Options :=
      { tabs := [1], tracks := ["1-2=5,5", track, "1=0,0"], motions := [motion, "1-2=Turn Left"] }
    let stage := (Setup.build {} options).stage
    (id = .forTab ⟨1⟩ 2 ∧ Padded id.text.toList key) ∧
    Options.ofArguments ["--tab", "1", "--track", track] = .ok { tabs := [1], tracks := [track] } ∧
    stage.tracked? id = some ⟨-2147483648, 2147483647⟩ ∧
    stage.queues.get id = ["Go = 1, 2", "Turn Left"] := by
  intro id key track motion options stage
  have hblank {c : Char} (hc : isBlank c = true) : ∀ d ∈ [c], isBlank d = true :=
    List.forall_mem_singleton.mpr hc
  have hkey : Padded id.text.toList key :=
    ⟨[' '], ['\u00a0'], hblank rfl, hblank rfl, by decide⟩
  have hfirst : Padded (toString (-2147483648 : Int32).toInt).toList "\t-2147483648 ".toList :=
    ⟨['\t'], [' '], hblank rfl, hblank rfl, by decide⟩
  have hsecond : Padded (toString (2147483647 : Int32).toInt).toList "\u30002147483647".toList :=
    ⟨['\u3000'], [], hblank rfl, nofun, by decide⟩
  obtain ⟨hread, htrack, hmotion⟩ := arguments_address_tabs ⟨1⟩ 2 hkey
  have hlater : ∀ other ∈ ["1=0,0"], ∀ position, tracking? other ≠ some (id, position) := by
    have hother : tracking? "1=0,0" = some (⟨"1"⟩, ⟨0, 0⟩) := by decide +kernel
    simp [hother, id]
  refine ⟨⟨by decide, hkey⟩, ?_, ?_, ?_⟩
  · exact (hread _ { tabs := [1] } []).1
  · refine (htrack (-2147483648) 2147483647 _ _ hfirst hsecond {}
      { options with tracks := ["1-2=5,5"] } ["1=0,0"]).1 ?_ hlater
    decide +kernel
  · refine ((hmotion "\u2003Go = 1, 2 \u0085".toList).2 {} { options with motions := [] }
      ["1-2=Turn Left"]).1.trans ?_
    decide +kernel

end SpriteStage
