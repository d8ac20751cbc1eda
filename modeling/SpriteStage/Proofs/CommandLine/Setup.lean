import SpriteStage.CommandLine.Folder
import SpriteStage.Proofs.Stage.QueueHistory

/-!
# Stages that arguments ask for

The arguments of the program are calls in another form: each one asks for one call, or for none if
it makes no sense. The module introduces:

* `Options.calls`: the calls that options ask for, and `stage_build`: the stage that is built is the
  one that these lead to, so that it is reachable;
* `Call.builds`: the kinds of calls among them;
* `Options.commandsFor options id`: the commands that options give to a queue, in their order, and
  `get_queues_build`: the queue holds these and nothing else;
* `Options.run_eq`: a session plays the stage that is built.
-/

namespace SpriteStage

/-! ## Arguments as calls -/

/-- The call that adds a sprite of a kind given by name. -/
def spriteCall? (kind : String) : Option Call := (SpriteKind.ofName? kind).map .addSprite

/-- The call that adds a tab for the sprite with a number. -/
def tabCall (number : Nat) : Call := .addTabFor ⟨number⟩

/-- The call that appends a command. -/
def motionCall? (argument : String) : Option Call :=
  (assignment? argument).map fun (id, command) => .append id (String.ofList command)

/-- The call that sets a tracked position. -/
def trackCall? (argument : String) : Option Call :=
  (tracking? argument).map fun (id, position) => .track id (some position)

/-- The calls that options ask for. -/
def Options.calls (options : Options) : List Call :=
  options.sprites.filterMap spriteCall? ++ options.tabs.map tabCall ++
    options.motions.filterMap motionCall? ++ options.tracks.filterMap trackCall?

namespace Setup

/-- Arguments that each ask for a call at most are worked off by making these calls. -/
private theorem stage_foldl {α : Type} {argument : Setup → α → Setup} {call? : α → Option Call}
    (h : ∀ setup a,
      (argument setup a).stage = (setup.stage.performAll (call? a).toList).1)
    (arguments : List α) (setup : Setup) :
    (arguments.foldl argument setup).stage =
      (setup.stage.performAll (arguments.filterMap call?)).1 := by
  induction arguments generalizing setup with
  | nil => rfl
  | cons a arguments ih =>
    have hcalls : (a :: arguments).filterMap call? =
        (call? a).toList ++ arguments.filterMap call? := by
      rw [List.filterMap_cons]
      cases call? a <;> rfl
    rw [List.foldl_cons, ih, h, hcalls, Stage.performAll_append]

theorem stage_spriteArgument (setup : Setup) (kind : String) :
    (setup.spriteArgument kind).stage =
      (setup.stage.performAll (spriteCall? kind).toList).1 := by
  rw [spriteArgument, spriteCall?]
  cases SpriteKind.ofName? kind with
  | none => rfl
  | some kind => rfl

theorem stage_tabArgument (setup : Setup) (number : Nat) :
    (setup.tabArgument number).stage = (setup.stage.perform (tabCall number)).stage := by
  rw [tabArgument, tabCall, Stage.perform, Stage.attemptTab]
  cases setup.stage.addTabFor? ⟨number⟩ with
  | none => rfl
  | some added => rfl

theorem stage_motionArgument (setup : Setup) (argument : String) :
    (setup.motionArgument argument).stage =
      (setup.stage.performAll (motionCall? argument).toList).1 := by
  rw [motionArgument, motionCall?]
  cases assignment? argument with
  | none => rfl
  | some assignment => rfl

theorem stage_trackArgument (setup : Setup) (argument : String) :
    (setup.trackArgument argument).stage =
      (setup.stage.performAll (trackCall? argument).toList).1 := by
  rw [trackArgument, trackCall?]
  cases tracking? argument with
  | none => rfl
  | some tracking =>
    obtain ⟨id, position⟩ := tracking
    rw [Option.map_some, Option.toList_some, Stage.performAll_singleton, Stage.perform,
      Stage.stage_attempt]
    dsimp only
    cases setup.stage.track? id (some position) with
    | none => rfl
    | some stage => rfl

/-- The stage that is built is the one that the calls lead to. -/
theorem stage_build (settings : Settings) (options : Options) :
    (build settings options).stage = Stage.after settings options.calls := by
  rw [build, Options.calls, stage_foldl stage_trackArgument, stage_foldl stage_motionArgument,
    @stage_foldl Nat tabArgument (some ∘ tabCall) stage_tabArgument, List.filterMap_eq_map,
    stage_foldl stage_spriteArgument, Stage.after, Stage.performAll_append,
    Stage.performAll_append, Stage.performAll_append]
  rfl

end Setup

/-! ## What the calls do -/

/-- The call is of a kind that options ask for. -/
def Call.builds : Call → Bool
  | addSprite _ | addTabFor _ | append _ _ | track _ _ => true
  | _ => false

theorem Call.isEdit_of_builds {call : Call} (h : call.builds = true) : call.isEdit = true := by
  cases call <;> simp_all [builds, isEdit]

theorem Options.builds_of_mem_calls {options : Options} {call : Call} (h : call ∈ options.calls) :
    call.builds = true := by
  simp only [calls, List.mem_append, List.mem_filterMap, List.mem_map, spriteCall?, tabCall,
    motionCall?, trackCall?, Option.map_eq_some_iff] at h
  obtain ((⟨_, -, _, -, rfl⟩ | ⟨_, -, rfl⟩) | ⟨_, -, _, -, rfl⟩) | ⟨_, -, _, -, rfl⟩ := h
  · rfl
  · rfl
  · rfl
  · rfl

/-! ## Queues -/

/-- The command that a call appends to a queue. -/
def Call.appended? (id : ActionId) : Call → Option String
  | append id' command => if id' = id then some command else none
  | _ => none

/-- The commands that options give to a queue, in their order. -/
def Options.commandsFor (options : Options) (id : ActionId) : List String :=
  options.motions.filterMap fun argument => do
    let (id', command) ← assignment? argument
    if id' = id then some (String.ofList command) else none

/-- Only motions give commands. -/
theorem Options.filterMap_appended? (options : Options) (id : ActionId) :
    options.calls.filterMap (Call.appended? id) = options.commandsFor id := by
  have hsprites (kind : String) : (spriteCall? kind).bind (Call.appended? id) = none := by
    rw [spriteCall?]
    cases SpriteKind.ofName? kind <;> rfl
  have htabs (number : Nat) : (Call.appended? id ∘ tabCall) number = none := rfl
  have htracks (argument : String) : (trackCall? argument).bind (Call.appended? id) = none := by
    rw [trackCall?]
    cases tracking? argument <;> rfl
  have hmotions (argument : String) : (motionCall? argument).bind (Call.appended? id) =
      (assignment? argument).bind fun (id', command) =>
        if id' = id then some (String.ofList command) else none := by
    rw [motionCall?]
    cases assignment? argument <;> rfl
  have hnone {α : Type} {f : α → Option String} (h : ∀ a, f a = none) (l : List α) :
      l.filterMap f = [] := List.filterMap_eq_nil_iff.mpr fun a _ => h a
  rw [calls, List.filterMap_append, List.filterMap_append, List.filterMap_append,
    List.filterMap_filterMap, List.filterMap_map, List.filterMap_filterMap,
    List.filterMap_filterMap, hnone hsprites, hnone htabs, hnone htracks, List.append_nil,
    List.nil_append, List.nil_append, commandsFor]
  exact congrArg (options.motions.filterMap ·) (funext hmotions)

namespace Stage

/-- A call that builds appends a command to a queue, or leaves it as it is. -/
theorem get_queues_perform (stage : Stage) {call : Call} (h : call.builds = true) (id : ActionId) :
    (stage.perform call).stage.queues.get id =
      stage.queues.get id ++ (call.appended? id).toList := by
  have hedit := edit_perform stage (Call.isEdit_of_builds h)
  cases call with
  | append id' command =>
    rw [stage_perform_append, queues_append, Queues.get_append, Call.appended?]
    split <;> simp_all
  | addTabFor sprite =>
    -- A new tab has its queue made, which is empty.
    rw [perform, attemptTab, addTabFor?_eq]
    split
    · exact (Queues.get_ensure _ _ _).trans (List.append_nil _).symm
    · exact (List.append_nil _).symm
  | addSprite | track =>
    rw [queues_edit_of_nil hedit rfl rfl]
    exact (List.append_nil _).symm
  | _ => cases h

/-- Calls that build append their commands to a queue, in order. -/
theorem get_queues_performAll (stage : Stage) {calls : List Call}
    (h : ∀ call ∈ calls, call.builds = true) (id : ActionId) :
    (stage.performAll calls).1.queues.get id =
      stage.queues.get id ++ calls.filterMap (Call.appended? id) := by
  induction calls generalizing stage with
  | nil => exact (List.append_nil _).symm
  | cons call calls ih =>
    rw [performAll, ih _ fun call hcall => h call (.tail _ hcall),
      get_queues_perform stage (h call (.head _)) id, List.append_assoc, List.filterMap_cons]
    cases call.appended? id <;> rfl

/-- All queues are empty at first. -/
theorem get_queues_new (settings : Settings) (id : ActionId) :
    (new settings).queues.get id = [] := by
  have hempty : ({} : Queues).get id = [] := by simp [Queues.get]
  rw [new]
  split
  · exact (Queues.get_ensure {} _ id).trans hempty
  · exact hempty

/-- The queues that are built hold the commands that options give them, and nothing else. -/
theorem get_queues_build (settings : Settings) (options : Options) (id : ActionId) :
    (after settings options.calls).queues.get id = options.commandsFor id := by
  rw [after, get_queues_performAll _ fun _ => Options.builds_of_mem_calls, get_queues_new,
    List.nil_append, Options.filterMap_appended?]

end Stage

/-! ## Sessions -/

/-- A session reports what it notes of its settings and what the stage that it builds plays. -/
theorem Options.run_eq (folder : Folder) {arguments : List String} {options : Options}
    (hread : Options.ofArguments arguments = .ok options) (hplays : options.writeConfig = none) :
    let loaded := options.settings (folder.read options.configPath)
    let report := (Setup.build loaded.1 options).play options.json
    folder.run arguments = ({ report with notes := loaded.2 ++ report.notes }, folder) := by
  rw [Folder.run, hread]
  simp only [Options.session, hplays]

end SpriteStage
