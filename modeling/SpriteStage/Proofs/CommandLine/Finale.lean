import SpriteStage.Proofs.CommandLine.Printing
import SpriteStage.Proofs.CommandLine.Setup
import SpriteStage.Proofs.Stage.ManualTracking
import SpriteStage.Proofs.Stage.Refusals
import SpriteStage.Proofs.Stage.SpriteTracking

/-!
# How sessions end

A session builds a stage, plays all queues once and shows the stage when nothing runs any more. The
module introduces:

* `Options.finale`: the playback of a session and its last stage, and `report_run`: what the program
  prints is that stage;
* `Options.givenTabs options stage id`: the tabs of a sprite that options give commands to;
* `exists_path_of_finished`: when the playback is over, a sprite has followed an interleaving of the
  queues that were bound to it;
* `exists_mem_sprites_session`: every sprite that a session puts up is there at its end;
* `commands_perm`: of these, the ones that are not empty are what options give to its tabs.

The main statement is `sprites_end_where_commands_lead`.
-/

namespace SpriteStage

/-! ## One playback on a stage at rest -/

namespace Stage

/-- The sprite of a new stage stands at the entrance. -/
theorem transform?_new (settings : Settings) (id : SpriteId) :
    (new settings).cast.transform? id =
      if (new settings).cast.contains id = true then some Body.entrance else none := by
  by_cases hstarter : settings.starterSprite = true
  · have hget : (new settings).cast.get? id =
        if id = ⟨1⟩ then some (some (Body.new .cat)) else none := by
      rw [new, if_pos hstarter]
      exact Roster.get?_enter {} ⟨1⟩ id (some (Body.new .cat))
    rw [Cast.transform?, Cast.body?, Roster.contains, hget]
    split <;> rfl
  · rw [new, if_neg hstarter]
    rfl

/-- The calls of a session: edits, then one playback of all queues, and ticks of one length. -/
def sessionCalls (edits : List Call) (dt : Float32) (n : Nat) : List Call :=
  edits ++ .play :: List.replicate n (.tick dt)

section Playback

variable {settings : Settings} {edits : List Call} {dt : Float32} {n : Nat}

theorem mem_sessionCalls {call : Call} (h : call ∈ sessionCalls edits dt n) :
    call ∈ edits ∨ call = .play ∨ call = .tick dt := by
  rcases List.mem_append.mp h with h | h
  · exact .inl h
  · rcases List.mem_cons.mp h with h | h
    · exact .inr (.inl h)
    · exact .inr (.inr (List.eq_of_mem_replicate h))

/-- The only lanes of a session are those of its playback. -/
theorem opens_session (hedits : ∀ call ∈ edits, call.isEdit = true) :
    (new settings).collect opens (sessionCalls edits dt n) =
      (after settings edits).opens .play := by
  have hcalls : (new settings).collect opens edits = [] :=
    collect_eq_nil (fun stage call hcall => (stage.opens_of_isEdit (hedits call hcall)).1) _
  have hticks (stage : Stage) : stage.collect opens (List.replicate n (.tick dt)) = [] :=
    collect_eq_nil (fun _ call hcall => by rw [List.eq_of_mem_replicate hcall]; rfl) stage
  rw [sessionCalls, collect_append, hcalls, List.nil_append, collect, hticks, List.append_nil]
  rfl

theorem after_session : after settings (sessionCalls edits dt n) =
    ((after settings edits).play.2.1.performAll (List.replicate n (.tick dt))).1 := by
  rw [sessionCalls, after_append]
  rfl

/-- When the playback is over, its lanes are at their ends. -/
theorem slice_of_finished
    (hfinished :
      (after settings (sessionCalls edits dt n)).isFinished (after settings edits).play.1 = true)
    {lane : Lane} (hlane : lane ∈ (after settings edits).opens .play) :
    (after settings (sessionCalls edits dt n)).performance.slice lane = lane.commands := by
  obtain ⟨hkept, -⟩ := kept_after settings (sessionCalls edits dt n)
  have hplayback : lane.playback = (after settings edits).play.1 :=
    Performance.playback_of_mem_newLanes hlane
  have hzero : lane.cursor = 0 := by
    obtain ⟨_, -, rfl⟩ := List.mem_map.mp hlane
    rfl
  have hover :
      lane.key ∉ (after settings (sessionCalls edits dt n)).performance.lanes.map Lane.key := by
    intro hmem
    obtain ⟨live, hlive, hkey⟩ := List.mem_map.mp hmem
    refine (hkept.counts.isFinished_iff.mp hfinished).2 live hlive ?_
    exact (congrArg (·.1) hkey : live.playback = lane.playback).trans hplayback
  rw [Performance.slice, Performance.cursorOf_of_not_mem hover, hzero, List.drop_zero,
    Nat.sub_zero, List.take_length]

/-- What happens in a session, from the new stage on. -/
theorem progress_session (settings : Settings) (dt : Float32) (n : Nat)
    (hedits : ∀ call ∈ edits, call.isEdit = true)
    (hkeeps : ∀ call ∈ edits, call.keepsBodies = true) :
    Performance.Progress (new settings).performance
      (after settings (sessionCalls edits dt n)).performance ((after settings edits).opens .play)
      ((new settings).collect steps (sessionCalls edits dt n)) := by
  have hcalls : ∀ call ∈ sessionCalls edits dt n, call.keepsBodies = true := by
    intro call hcall
    rcases mem_sessionCalls hcall with hcall | rfl | rfl
    · exact hkeeps call hcall
    · rfl
    · rfl
  have hprogress := progress_after settings [] (sessionCalls edits dt n) hcalls
  have hnew : after settings [] = new settings := rfl
  rwa [List.nil_append, hnew, (performance_new settings).1, List.nil_append,
    opens_session hedits] at hprogress

/-- When the playback is over, a sprite has followed an interleaving of the queues that were bound
to it. -/
theorem exists_path_of_finished (hedits : ∀ call ∈ edits, call.isEdit = true)
    (hkeeps : ∀ call ∈ edits, call.keepsBodies = true)
    (hfinished :
      (after settings (sessionCalls edits dt n)).isFinished (after settings edits).play.1 = true)
    {sprite : Sprite} (hsprite : sprite ∈ (after settings (sessionCalls edits dt n)).cast.sprites) :
    ∃ path, Interleaves ((((after settings edits).opens .play).filter
        (·.sprite = some sprite.id)).map (·.commands)) path ∧
      sprite.transform = Body.entrance.followAll path := by
  have hprogress := progress_session settings dt n hedits hkeeps
  refine ⟨taken ((new settings).collect steps (sessionCalls edits dt n))
    (·.sprite = some sprite.id), ?_, ?_⟩
  · have hslices := hprogress.interleaves sprite.id
    rwa [List.map_congr_left fun lane hlane =>
      slice_of_finished hfinished (List.mem_filter.mp hlane).1] at hslices
  · -- The sprite appeared at the entrance, whether it was there first or came later.
    obtain ⟨t, hstart, hfollowed⟩ := hprogress.exists_start (Cast.transform?_of_mem_sprites hsprite)
    obtain rfl : t = Body.entrance := by
      rcases hstart with hstart | ⟨-, hstart⟩
      · have hnew := (transform?_new settings sprite.id).symm.trans hstart
        rw [Option.ite_none_right_eq_some] at hnew
        exact (Option.some.inj hnew.2).symm
      · exact hstart
    exact hfollowed

/-- Every sprite that a session puts up is there at its end. -/
theorem exists_mem_sprites_session (hedits : ∀ call ∈ edits, call.isEdit = true)
    (hkeeps : ∀ call ∈ edits, call.keepsBodies = true) {id : SpriteId}
    (hid : (after settings (sessionCalls edits dt n)).cast.contains id = true) :
    ∃ sprite ∈ (after settings (sessionCalls edits dt n)).cast.sprites, sprite.id = id := by
  have hprogress := progress_session settings dt n hedits hkeeps
  obtain ⟨t, ht⟩ := hprogress.exists_transform?
    (fun id hid => ⟨Body.entrance, (transform?_new settings id).trans (if_pos hid)⟩) hid
  by_contra hnone
  push Not at hnone
  have hlost := Cast.transform?_eq_none_iff.mpr hnone
  exact Option.some_ne_none t (ht.symm.trans hlost)

/-- Neither a playback nor a tick binds an id. -/
theorem index_session :
    (after settings (sessionCalls edits dt n)).index = (after settings edits).index := by
  have hticks (stage : Stage) (n : Nat) :
      (stage.performAll (List.replicate n (.tick dt))).1.index = stage.index := by
    induction n generalizing stage with
    | zero => rfl
    | succ n ih => exact ih _
  rw [after_session, hticks]
  rfl

/-- A session takes no tab off the board. -/
theorem seated_session (hbuilds : ∀ call ∈ edits, call.builds = true) :
    (after settings (sessionCalls edits dt n)).Seated := by
  refine seated_after fun action hmem => ?_
  rcases mem_sessionCalls hmem with hmem | heq | heq
  · cases hbuilds _ hmem
  · cases heq
  · cases heq

end Playback

/-! ## Tabs and lanes -/

theorem OrderlyTabs.nodup_ids_tabs {stage : Stage} (h : stage.OrderlyTabs) :
    (stage.tabs.map (·.id)).Nodup := by
  rw [h.ids_tabs]
  exact h.nodup_ids.filter _

/-- No two lanes of one playback have the same id. -/
theorem nodup_actions_opens (stage : Stage) : ((stage.opens .play).map (·.action)).Nodup := by
  have hkeys : (stage.opens .play).map (·.action) = stage.queues.script.keys := by
    rw [← Std.ExtTreeMap.map_fst_toList_eq_keys, opens, Performance.newLanes, List.map_map]
    rfl
  rw [hkeys]
  exact Std.ExtTreeMap.nodup_keys

/-- Where no tab was taken off the board, an id is bound to a sprite exactly if a tab of that id is
there and drives it. -/
theorem Registered.exists_tab_iff {stage : Stage} {owners : List SpriteId}
    (h : stage.Registered owners) (hseated : stage.Seated) {action : ActionId} {id : SpriteId} :
    (∃ tab ∈ stage.tabs, tab.id = action ∧ tab.sprite = id) ↔
      stage.index.spriteOf? action = some id := by
  constructor
  · rintro ⟨view, hview, rfl, rfl⟩
    obtain ⟨tab, htab, rfl⟩ := mem_tabs_iff.mp hview
    exact h.spriteOf?_of_mem htab
  · intro hbound
    obtain ⟨binding, hbinding, rfl⟩ := Option.map_eq_some_iff.mp hbound
    have hentry : (action, binding) ∈ registration owners := by
      rw [← List.mem_reverse, ← h.bindings, List.reverse_reverse]
      exact mem_of_lookup_eq_some hbinding
    obtain ⟨tab, htab⟩ := Option.isSome_iff_exists.mp (h.isSome_tab? hseated hentry)
    obtain ⟨hid, hsprite, -⟩ := h.tab_eq hentry htab
    exact ⟨_, mem_tabs_iff.mpr ⟨tab, (h.mem_of_tab? htab).1, rfl⟩, hid, hsprite⟩

end Stage

/-! ## Sessions -/

theorem Call.keepsBodies_of_builds {call : Call} (h : call.builds = true) :
    call.keepsBodies = true := by
  cases call <;> simp_all [builds, keepsBodies]

namespace Options

open Stage

/-- The playback of a session and the stage that it ends on, given what was found at the path of the
options. -/
def finale (options : Options) (file : Except FileFault ByteArray) : PlaybackId × Stage :=
  let (playback, stage, _) := (Setup.build (options.settings file).1 options).stage.play
  (playback, (stage.runUntilIdle stage.settings.tickDelta tickLimit).stage)

/-- The tabs of a sprite that options give commands to. -/
def givenTabs (options : Options) (stage : Stage) (id : SpriteId) : List TabView :=
  stage.tabs.filter fun tab => tab.sprite = id ∧ options.commandsFor tab.id ≠ []

/-- A session ends with the playback of the stage that its options ask for. -/
theorem exists_finale_eq (options : Options) (file : Except FileFault ByteArray) :
    ∃ dt n, options.finale file =
      ((after (options.settings file).1 options.calls).play.1,
        after (options.settings file).1 (sessionCalls options.calls dt n)) := by
  have hbuild := Setup.stage_build (options.settings file).1 options
  let stage := (after (options.settings file).1 options.calls).play.2.1
  obtain ⟨n, -, hstage, -⟩ :=
    untilIdle_eq_performAll stage.settings.tickDelta tickLimit { stage }
  refine ⟨stage.settings.tickDelta, n, ?_⟩
  rw [finale, hbuild, after_session, ← hstage]
  rfl

variable {settings : Settings} {options : Options}

/-- A lane of the playback has the commands that were given to its id, and drives the sprite that
the id is bound to. -/
theorem lane_of_mem_opens {lane : Lane}
    (hlane : lane ∈ (after settings options.calls).opens .play) :
    lane.commands = options.commandsFor lane.action ∧
      lane.sprite = (after settings options.calls).index.spriteOf? lane.action := by
  obtain ⟨⟨action, commands⟩, hentry, rfl⟩ := List.mem_map.mp hlane
  refine ⟨?_, rfl⟩
  have hfound := Std.ExtTreeMap.mem_toList_iff_getElem?_eq_some.mp hentry
  rw [← get_queues_build settings options action, Queues.get, hfound]
  rfl

/-- Every id that is given commands has a lane. -/
theorem exists_mem_opens {action : ActionId} (hgiven : options.commandsFor action ≠ []) :
    ∃ lane ∈ (after settings options.calls).opens .play, lane.action = action := by
  have hget := get_queues_build settings options action
  cases hfound : (after settings options.calls).queues.script[action]? with
  | none =>
    rw [Queues.get, hfound] at hget
    exact absurd hget.symm hgiven
  | some commands =>
    exact ⟨_, List.mem_map_of_mem (Std.ExtTreeMap.mem_toList_iff_getElem?_eq_some.mpr hfound), rfl⟩

/-- The lanes of a sprite that have commands are those of the tabs that options give commands to. -/
theorem actions_perm (settings : Settings) (options : Options) (dt : Float32) (n : Nat)
    (id : SpriteId) :
    ((((after settings options.calls).opens .play).filter (·.sprite = some id)).filter
        (!·.commands.isEmpty) |>.map (·.action)).Perm
      ((options.givenTabs (after settings (sessionCalls options.calls dt n)) id).map (·.id)) := by
  have hregistered := registered_after settings (sessionCalls options.calls dt n)
  -- On both sides, an id is there if it is bound to the sprite and was given commands.
  have hbound {action : ActionId} :
      (∃ tab ∈ (after settings (sessionCalls options.calls dt n)).tabs,
        tab.id = action ∧ tab.sprite = id) ↔
        (after settings options.calls).index.spriteOf? action = some id := by
    rw [hregistered.exists_tab_iff (seated_session fun _ => builds_of_mem_calls), index_session]
  have hactions := nodup_actions_opens (after settings options.calls)
  have hids := hregistered.nodup_ids_tabs
  refine (List.perm_ext_iff_of_nodup
    (hactions.sublist ((List.filter_sublist.trans List.filter_sublist).map _))
    (hids.sublist (List.filter_sublist.map _))).mpr fun action => ?_
  simp only [List.mem_map, List.mem_filter, decide_eq_true_eq, Bool.not_eq_true',
    List.isEmpty_eq_false_iff]
  constructor
  · rintro ⟨lane, ⟨⟨hlane, hsprite⟩, hne⟩, rfl⟩
    obtain ⟨hcommands, hdrives⟩ := lane_of_mem_opens hlane
    obtain ⟨tab, htab, hid, howner⟩ := hbound.mpr (hdrives.symm.trans hsprite)
    exact ⟨tab, ⟨htab, howner, by rwa [hid, ← hcommands]⟩, hid⟩
  · rintro ⟨tab, ⟨htab, howner, hne⟩, rfl⟩
    obtain ⟨lane, hlane, haction⟩ := exists_mem_opens hne
    obtain ⟨hcommands, hdrives⟩ := lane_of_mem_opens hlane
    rw [haction] at hcommands hdrives
    exact ⟨lane, ⟨⟨hlane, hdrives.trans (hbound.mp ⟨tab, htab, rfl, howner⟩)⟩, hcommands ▸ hne⟩,
      haction⟩

/-- The queues that a playback binds to a sprite are, where they are not empty, what options give to
the tabs of that sprite. -/
theorem commands_perm (settings : Settings) (options : Options) (dt : Float32) (n : Nat)
    (id : SpriteId) :
    ((((after settings options.calls).opens .play).filter (·.sprite = some id)).map
        (·.commands) |>.filter (!·.isEmpty)).Perm
      ((options.givenTabs (after settings (sessionCalls options.calls dt n)) id).map
        (options.commandsFor ·.id)) := by
  have hgiven := (actions_perm settings options dt n id).map options.commandsFor
  rw [List.map_map, List.map_map] at hgiven
  rw [List.filter_map]
  refine (List.map_congr_left fun lane hlane => ?_) ▸ hgiven
  exact (lane_of_mem_opens (List.mem_filter.mp (List.mem_filter.mp hlane).1).1).1.symm

/-- A program that plays succeeds and prints the stage that it ends on. -/
theorem report_run (folder : Folder) {arguments : List String}
    (hread : ofArguments arguments = .ok options) (hplay : options.writeConfig = none) :
    (folder.run arguments).1.status = 0 ∧ (folder.run arguments).1.output =
      (options.finale (folder.read options.configPath)).2.shown options.json := by
  rw [run_eq folder hread hplay]
  exact ⟨rfl, rfl⟩

/-- Where there is at most one element, there is one order only. -/
private theorem eq_of_perm_of_length_le_one {α : Type} {l l' : List α} (h : l.Perm l')
    (hone : l'.length ≤ 1) : l = l' := by
  match l', hone with
  | [], _ => exact h.eq_nil
  | [a], _ => exact List.perm_singleton.mp h

/-- A session prints where sprites end up. It prints the stage that it ends on, and with it lines on
each of its sprites, which are all that were put up. When its playback is over, a sprite of whose
tabs at most one was given commands stands where these lead from the entrance, in the order of the
arguments, and this is what its lines tell, whatever the settings, the tracked positions and the
other queues. -/
theorem sprites_end_where_commands_lead (folder : Folder) {arguments : List String}
    (hread : ofArguments arguments = .ok options) (hplay : options.writeConfig = none) :
    let playback := (options.finale (folder.read options.configPath)).1
    let final := (options.finale (folder.read options.configPath)).2
    let output := (folder.run arguments).1.output
    (folder.run arguments).1.status = 0 ∧
    output = final.shown options.json ∧
    (∀ id, final.cast.contains id = true → ∃ sprite ∈ final.cast.sprites, sprite.id = id) ∧
    (printedSprites options.json final.cast.sprites).map String.toList <:+:
      Text.lines output.toList ∧
    (final.isFinished playback = true → ∀ sprite ∈ final.cast.sprites,
      (options.givenTabs final sprite.id).length ≤ 1 →
      sprite.transform = Body.entrance.followAll
          ((options.givenTabs final sprite.id).flatMap (options.commandsFor ·.id)) ∧
        (sprite.printed options.json).map String.toList <:+: Text.lines output.toList) := by
  obtain ⟨hstatus, houtput⟩ := report_run folder hread hplay
  obtain ⟨dt, n, hfinale⟩ := options.exists_finale_eq (folder.read options.configPath)
  intro playback final output
  have hshown : output = final.shown options.json := houtput
  have hedits : ∀ call ∈ options.calls, call.isEdit = true :=
    fun _ hcall => Call.isEdit_of_builds (builds_of_mem_calls hcall)
  have hkeeps : ∀ call ∈ options.calls, call.keepsBodies = true :=
    fun _ hcall => Call.keepsBodies_of_builds (builds_of_mem_calls hcall)
  refine ⟨hstatus, hshown, fun id hid => ?_, hshown ▸ final.printedSprites_infix_shown options.json,
    fun hfinished sprite hsprite hone => ⟨?_, hshown ▸ printed_infix_shown hsprite options.json⟩⟩
  · simp only [final, hfinale] at hid ⊢
    exact exists_mem_sprites_session hedits hkeeps hid
  simp only [playback, final, hfinale] at hfinished hsprite hone ⊢
  obtain ⟨path, hpath, htransform⟩ := exists_path_of_finished hedits hkeeps hfinished hsprite
  -- At most one of the queues is not empty, so they interleave in one way only.
  have hperm := commands_perm (options.settings (folder.read options.configPath)).1 options dt n
    sprite.id
  rw [← List.length_map (options.commandsFor ·.id)] at hone
  rw [htransform, hpath.eq_flatten (hperm.length_eq ▸ hone), ← List.flatten_filter_not_isEmpty,
    eq_of_perm_of_length_le_one hperm hone, List.flatMap_def]

/-- The cat and the earth enter at the same place, and their tabs follow them. One of the two tabs
of the cat is given commands, and so is a tab that nobody has; the cat ends where its own lead. -/
theorem cat_ends_where_commands_lead :
    let folder : Folder := [("motionstage.ini",
      "[collision]\nfollow_sprites=true\n[runner]\ntick_hz=2\ntime_scale=2".toUTF8)]
    let arguments := ["--tab", "1", "--sprite=earth", "--tab=2", "--motion", "1=Turn Right",
      "--motion", " 1 = Move Right 5 ", "--motion", "9=Turn Left", "--motion=2=Move Right 30"]
    let options : Options :=
      { sprites := ["earth"]
        tabs := [1, 2]
        motions := ["1=Turn Right", " 1 = Move Right 5 ", "9=Turn Left", "2=Move Right 30"] }
    let playback := (options.finale (folder.read options.configPath)).1
    let final := (options.finale (folder.read options.configPath)).2
    ofArguments arguments = .ok options ∧ options.writeConfig = none ∧
    (folder.run arguments).1.output = final.shown false ∧
    final.isFinished playback = true ∧
    ⟨⟨1⟩, .cat, ⟨⟨105, 100⟩, 90⟩⟩ ∈ final.cast.sprites ∧
    (options.givenTabs final ⟨1⟩).length ≤ 1 ∧
    (⟨⟨105, 100⟩, 90⟩ : Transform) = Body.entrance.followAll
      ((options.givenTabs final ⟨1⟩).flatMap (options.commandsFor ·.id)) ∧
    ["cat sprite #1 at (105, 100) rotated 90°".toList] <:+:
      Text.lines (folder.run arguments).1.output.toList := by
  intro folder arguments options
  have hread : ofArguments arguments = .ok options := by decide +kernel
  have hfinished : (options.finale (folder.read options.configPath)).2.isFinished
      (options.finale (folder.read options.configPath)).1 = true := by decide +kernel
  have hcat : ⟨⟨1⟩, .cat, ⟨⟨105, 100⟩, 90⟩⟩ ∈
      (options.finale (folder.read options.configPath)).2.cast.sprites := by decide +kernel
  -- The tabs are counted where the playback is opened, before any of them collide.
  have hone : (options.givenTabs (options.finale (folder.read options.configPath)).2 ⟨1⟩).length ≤
      1 := by
    obtain ⟨dt, n, hfinale⟩ := options.exists_finale_eq (folder.read options.configPath)
    have hlength := (actions_perm (options.settings (folder.read options.configPath)).1 options dt n
      ⟨1⟩).length_eq
    rw [List.length_map, List.length_map] at hlength
    rw [hfinale, ← hlength]
    decide +kernel
  obtain ⟨-, houtput, -, -, hend⟩ := sprites_end_where_commands_lead folder hread rfl
  obtain ⟨htransform, hprinted⟩ := hend hfinished _ hcat hone
  exact ⟨hread, rfl, houtput, hfinished, hcat, hone, htransform, hprinted⟩

end Options

end SpriteStage
