import Mathlib.Data.List.Induction
import SpriteStage.Proofs.Playback.Progress
import SpriteStage.Proofs.Stage.Tabs

/-!
# Lanes in any schedule

Whatever ticks and calls come, a lane applies its copy of a queue in order, and every command once.
The module introduces:

* `Call.keepsBodies`: the calls that leave bodies to the lanes;
* `Stage.Staffed`: tabs and lanes drive sprites that were put up;
* `progress_after`: `Performance.Progress` holds between any two moments of a run of such calls.

The main statement, `lanes_apply_slices`, says what this means for cursors and transforms.
-/

namespace SpriteStage

/-- The call leaves bodies to the lanes. -/
def Call.keepsBodies : Call → Bool
  | updateSprite _ _ | takeOffSprite _ | dropRotation _ => false
  | _ => true

namespace Stage

variable {stage stage' : Stage}

/-! ## Sprites that are driven were put up -/

/-- What tabs and lanes drive was put up, and no lane is past its end. -/
structure Staffed (stage : Stage) : Prop where
  /-- Sprites have numbers that were handed out. -/
  numbered : ∀ id, stage.cast.contains id = true → id.number < stage.cast.nextNumber
  /-- Tabs belong to sprites that were put up. -/
  bound : ∀ entry ∈ stage.index.bindings, stage.cast.contains entry.2.sprite = true
  /-- Lanes drive sprites that were put up. -/
  driven : ∀ lane ∈ stage.performance.lanes, ∀ id, lane.sprite = some id →
    stage.cast.contains id = true
  /-- Lanes are not past their end. -/
  within : ∀ lane ∈ stage.performance.lanes, lane.cursor ≤ lane.commands.length

theorem staffed_bare (settings : Settings) : (bare settings).Staffed where
  numbered := fun _ hid => absurd hid Bool.false_ne_true
  bound := nofun
  driven := nofun
  within := nofun

/-- The sprite that a new body is entered under is new. -/
theorem contains_add (cast : Cast) (kind : SpriteKind) (id : SpriteId) :
    (cast.add kind).2.contains id = true ↔ id = ⟨cast.nextNumber⟩ ∨ cast.contains id = true := by
  exact Roster.contains_enter _ _ _ _

/-- A change of the cast keeps the staff, if it keeps all sprites. -/
theorem Staffed.withCast (h : stage.Staffed) {cast : Cast}
    (hkept : ∀ id, stage.cast.contains id = true → cast.contains id = true)
    (hnumbered : ∀ id, cast.contains id = true → id.number < cast.nextNumber) :
    (stage.withCast cast).Staffed where
  numbered := hnumbered
  bound := fun entry hentry => hkept _ (h.bound entry hentry)
  driven := fun lane hlane id hid => hkept id (h.driven lane hlane id hid)
  within := h.within

theorem Staffed.modify (h : stage.Staffed) (id : SpriteId) (f : Option Body → Option Body) :
    (stage.withCast (stage.cast.modify id f)).Staffed :=
  h.withCast (fun _ hother => (Roster.contains_modify _ _ _ _).trans hother) fun other hother =>
    h.numbered other ((Roster.contains_modify _ _ _ _).symm.trans hother)

theorem Staffed.edit (h : stage.Staffed) {call : Call} (hedit : stage.Edit call stage') :
    stage'.Staffed := by
  cases hedit with
  | addSprite kind =>
    refine h.withCast (fun id hid => (contains_add _ _ _).mpr (.inr hid)) fun id hid => ?_
    rw [Cast.nextNumber_add]
    rcases (contains_add _ _ _).mp hid with rfl | hid
    · exact Nat.lt_succ_self _
    · exact Nat.lt_succ_of_lt (h.numbered id hid)
  | updateSprite | takeOffSprite | dropRotation => exact h.modify _ _
  | addTab sprite _ hsprite =>
    refine ⟨h.numbered, fun entry hentry => ?_, h.driven, h.within⟩
    rcases List.mem_cons.mp hentry with rfl | hentry
    · exact hsprite
    · exact h.bound entry hentry
  | _ => exact ⟨h.numbered, h.bound, h.driven, h.within⟩

/-- An id is bound to a sprite that was put up. -/
theorem Staffed.contains_of_spriteOf? (h : stage.Staffed) {action : ActionId} {id : SpriteId}
    (hid : stage.index.spriteOf? action = some id) : stage.cast.contains id = true := by
  obtain ⟨binding, hbinding, rfl⟩ := Option.map_eq_some_iff.mp hid
  exact h.bound _ (mem_of_lookup_eq_some hbinding)

theorem Staffed.start (h : stage.Staffed) (script : Script) :
    (stage.start script).2.1.Staffed where
  numbered := h.numbered
  bound := h.bound
  driven := by
    intro lane hlane id hid
    rcases List.mem_append.mp hlane with hlane | hlane
    · exact h.driven lane hlane id hid
    · -- A new lane drives the sprite that its id is bound to.
      obtain ⟨_, -, rfl⟩ := List.mem_map.mp hlane
      exact h.contains_of_spriteOf? hid
  within := by
    intro lane hlane
    rcases List.mem_append.mp hlane with hlane | hlane
    · exact h.within lane hlane
    · obtain ⟨_, -, rfl⟩ := List.mem_map.mp hlane
      exact Nat.zero_le _

theorem Staffed.tick (h : stage.Staffed) (dt : Float32) : (stage.tick dt).1.Staffed where
  numbered := by
    intro id hid
    have hnumber : (stage.tick dt).1.cast.nextNumber = stage.cast.nextNumber :=
      stage.performance.castNumber_tick dt
    rw [hnumber]
    exact h.numbered id ((stage.performance.contains_tick dt id).symm.trans hid)
  bound := fun entry hentry =>
    (stage.performance.contains_tick dt _).trans (h.bound entry hentry)
  driven := by
    intro lane hlane id hid
    obtain ⟨live, hlive, -, rfl⟩ := Performance.mem_lanes_tick_iff.mp hlane
    exact (stage.performance.contains_tick dt id).trans (h.driven live hlive id hid)
  within := by
    intro lane hlane
    obtain ⟨live, hlive, -, rfl⟩ := Performance.mem_lanes_tick_iff.mp hlane
    exact Lane.cursor_visit_le (h.within live hlive) _

/-- On every reachable stage, what is driven was put up. -/
theorem staffed_after (settings : Settings) (calls : List Call) :
    (after settings calls).Staffed :=
  after_induction (P := Staffed) staffed_bare (fun _ _ _ hedit h => h.edit hedit)
    (fun _ script h => h.start script) (fun _ dt h => h.tick dt) settings calls

/-! ## Runs -/

/-- The commands that are applied in a call, each with its lane. -/
def steps (stage : Stage) : Call → List (Lane × String)
  | .tick dt => stage.performance.steps dt
  | .playScript script => (stage.start script).2.1.performance.steps 0
  | .play => (stage.start stage.queues.script).2.1.performance.steps 0
  | _ => []

/-- An edit that leaves the bodies alone changes the cast only by putting up a sprite. -/
theorem extends_edit (h : stage.Staffed) {call : Call} (hedit : stage.Edit call stage')
    (hcall : call.keepsBodies = true) : Cast.Extends stage.cast stage'.cast := by
  cases hedit with
  | addSprite kind =>
    intro id
    have hget : (stage.cast.add kind).2.get? id =
        if id = ⟨stage.cast.nextNumber⟩ then some (some (.new kind)) else stage.cast.get? id :=
      Roster.get?_enter _ _ _ _
    -- The number is new, so no older sprite is hidden by it.
    by_cases hid : id = ⟨stage.cast.nextNumber⟩
    · refine .inr ⟨?_, (contains_add _ _ _).mpr (.inl hid), kind, ?_⟩
      · rw [← Bool.not_eq_true]
        intro hcontained
        have hlt := h.numbered id hcontained
        rw [hid] at hlt
        exact Nat.lt_irrefl _ hlt
      · rw [cast_withCast, Cast.body?, hget, if_pos hid]
        rfl
    · rw [if_neg hid] at hget
      exact .inl ⟨congrArg Option.isSome hget, congrArg Option.join hget⟩
  | updateSprite | takeOffSprite | dropRotation => cases hcall
  | _ => exact fun id => .inl ⟨rfl, rfl⟩

open Performance (Progress)

variable {opening : Performance} {lanes : List Lane} {trace : List (Lane × String)}

theorem progress_start (h : Progress opening stage.performance lanes trace)
    (hstaffed : stage.Staffed) (script : Script) :
    Progress opening (stage.start script).2.1.performance (lanes ++ stage.opens (.start script))
      trace :=
  h.start fun _ _ hid => hstaffed.contains_of_spriteOf? hid

/-- Calls that leave the bodies to the lanes take the progress further. -/
theorem progress_perform (h : Progress opening stage.performance lanes trace)
    (hstaffed : stage.Staffed) {call : Call} (hcall : call.keepsBodies = true) :
    Progress opening (stage.perform call).stage.performance (lanes ++ stage.opens call)
      (trace ++ stage.steps call) := by
  -- To play is to open a playback and to let a tick pass, so three steps cover all calls.
  rcases call.isEdit_or with hedit | ⟨script, rfl⟩ | ⟨script, rfl⟩ | rfl | ⟨dt, rfl⟩
  · have hsteps : stage.steps call = [] := by
      cases call <;> first | rfl | simp [Call.isEdit] at hedit
    rw [hsteps, (stage.opens_of_isEdit hedit).1, List.append_nil, List.append_nil]
    have hperformed := edit_perform stage hedit
    obtain ⟨hlanes, htracker, -⟩ := performance_edit hperformed
    exact h.edit hlanes htracker (extends_edit hstaffed hperformed hcall)
  · have hstarted := progress_start h hstaffed script
    rw [← List.append_nil trace] at hstarted
    exact hstarted
  · exact (progress_start h hstaffed script).tick 0
  · exact (progress_start h hstaffed stage.queues.script).tick 0
  · have hticked := h.tick dt
    rw [← List.append_nil lanes] at hticked
    exact hticked

/-- Between any two moments of a run there is progress. -/
theorem progress_after (settings : Settings) (calls more : List Call)
    (hmore : ∀ call ∈ more, call.keepsBodies = true) :
    Progress (after settings calls).performance (after settings (calls ++ more)).performance
      ((after settings calls).performance.lanes ++ (after settings calls).collect opens more)
      ((after settings calls).collect steps more) := by
  induction more using List.reverseRecOn with
  | nil =>
    obtain ⟨hkept, -⟩ := kept_after settings calls
    have hstaffed := staffed_after settings calls
    rw [List.append_nil, collect, collect, List.append_nil]
    exact .refl hkept.live_nodup (fun lane hlane => hkept.number_lt hlane) hstaffed.driven
      hstaffed.within
  | append_singleton more call ih =>
    have hprogress := progress_perform
      (ih fun c hc => hmore c (List.mem_append_left _ hc)) (staffed_after settings (calls ++ more))
      (hmore call (by simp))
    rw [← List.append_assoc, after_concat, collect_append, collect_append, ← after_append]
    simpa [collect] using hprogress

/-! ## Main statement -/

/-- Of lanes that drive different sprites, at most one drives a given sprite. -/
theorem filter_sprite_of_nodup {lanes : List Lane} (h : (lanes.filterMap (·.sprite)).Nodup)
    (id : SpriteId) :
    lanes.filter (·.sprite = some id) = [] ∨
      ∃ lane, lanes.filter (·.sprite = some id) = [lane] := by
  have hcount := List.nodup_iff_count_le_one.mp h id
  rw [List.count_filterMap, List.countP_eq_length_filter] at hcount
  have hlength : (lanes.filter (·.sprite = some id)).length ≤ 1 := by
    simpa only [beq_eq_decide] using hcount
  rcases hfilter : lanes.filter (·.sprite = some id) with _ | ⟨lane, _ | ⟨other, rest⟩⟩
  · exact .inl hfilter
  · exact .inr ⟨lane, hfilter⟩
  · simp [hfilter] at hlength

/-- Where no two lanes drive the same sprite, every body follows the one lane that drives it. -/
theorem body?_of_nodup {settings : Settings} {calls more : List Call}
    (hmore : ∀ call ∈ more, call.keepsBodies = true)
    (hnodup : ((after settings calls).performance.lanes.filterMap (·.sprite)).Nodup)
    (hopens : (after settings calls).collect opens more = []) {id : SpriteId}
    (hid : (after settings calls).cast.contains id = true) :
    ((after settings calls).performAll more).1.cast.body? id =
      ((after settings calls).cast.body? id).map (·.follow
        (((after settings calls).performance.lanes.filter (·.sprite = some id)).flatMap
          ((after settings calls).performAll more).1.performance.slice)) := by
  have hprogress := progress_after settings calls more hmore
  rw [after_append, hopens, List.append_nil] at hprogress
  have hpath := hprogress.interleaves id
  rw [cast, (hprogress.kept id hid).2]
  -- With at most one lane there is only one interleaving.
  rcases filter_sprite_of_nodup hnodup id with hnone | ⟨lane, hone⟩
  · rw [hnone] at hpath
    rw [hnone, hpath.eq_nil]
    rfl
  · rw [hone] at hpath
    rw [hone, hpath.eq_of_singleton, List.flatMap_singleton]
    rfl

/-- Every lane applies its copy of a queue in order, and every command once, whatever ticks and
calls come, as long as these leave the bodies of sprites alone. Between a reachable stage and a
later one, let `lanes` be those that were playing and those that were opened since. Then:

* lanes move forward and not past their end, and a tick takes a lane away only at its end;
* a sprite that has a transform in the end has followed, from the transform that it had or appeared
  with, an interleaving of the slices of commands that its lanes have moved past;
* so a body without lanes stays as it is, and one with a single lane follows the slice of that;
* where no two lanes drive the same sprite, and none is opened, all bodies end up the same in
  any two runs that bring the lanes equally far. -/
theorem lanes_apply_slices (settings : Settings) (calls more : List Call)
    (hmore : ∀ call ∈ more, call.keepsBodies = true) :
    let stage := after settings calls
    let stage' := (stage.performAll more).1
    let lanes := stage.performance.lanes ++ stage.collect opens more
    (lanes.map Lane.key).Nodup ∧
    (∀ live ∈ stage'.performance.lanes, ∃ lane ∈ lanes, live.key = lane.key ∧
      live.commands = lane.commands ∧ live.sprite = lane.sprite ∧
        stage'.performance.cursorOf lane = live.cursor) ∧
    (∀ lane ∈ lanes, lane.cursor ≤ stage'.performance.cursorOf lane ∧
      stage'.performance.cursorOf lane ≤ lane.commands.length) ∧
    (∀ dt, ∀ visit ∈ stage'.performance.visits dt,
      let next := (stage'.tick dt).1
      visit.lane ∈ next.performance.lanes ∨
        visit.lane.key ∉ next.performance.lanes.map Lane.key ∧
          visit.lane.cursor = visit.lane.commands.length) ∧
    (∀ id t', stage'.cast.transform? id = some t' → ∃ t merged,
      (stage.cast.transform? id = some t ∨
        stage.cast.contains id = false ∧ t = Body.entrance) ∧
      Interleaves ((lanes.filter (·.sprite = some id)).map stage'.performance.slice) merged ∧
      t' = t.followAll merged) ∧
    (∀ id t, stage.cast.transform? id = some t → (stage'.cast.transform? id).isSome = true) ∧
    (∀ id, stage.cast.contains id = true → (∀ lane ∈ lanes, lane.sprite ≠ some id) →
      stage'.cast.body? id = stage.cast.body? id) ∧
    (∀ id t lane, stage.cast.transform? id = some t →
      lanes.filter (·.sprite = some id) = [lane] →
      stage'.cast.transform? id = some (t.followAll (stage'.performance.slice lane))) ∧
    ((stage.performance.lanes.filterMap (·.sprite)).Nodup → stage.collect opens more = [] →
      ∀ others : List Call, (∀ call ∈ others, call.keepsBodies = true) →
      stage.collect opens others = [] →
      let stage'' := (stage.performAll others).1
      (∀ lane ∈ stage.performance.lanes,
        stage'.performance.cursorOf lane = stage''.performance.cursorOf lane) →
      ∀ id, stage.cast.contains id = true → stage'.cast.body? id = stage''.cast.body? id) := by
  intro stage stage' lanes
  have hprogress := progress_after settings calls more hmore
  rw [after_append] at hprogress
  -- The commands that a sprite was moved by, in the order in which they came.
  let path (id : SpriteId) : List String := taken (stage.collect steps more) (·.sprite = some id)
  have hpath (id : SpriteId) : Interleaves
      ((lanes.filter (·.sprite = some id)).map stage'.performance.slice) (path id) :=
    hprogress.interleaves id
  have hkept {id : SpriteId} (hid : stage.cast.contains id = true) :
      stage'.cast.body? id = (stage.cast.body? id).map (·.follow (path id)) :=
    (hprogress.kept id hid).2
  have hmoved {id : SpriteId} {t : Transform} (ht : stage.cast.transform? id = some t) :
      stage'.cast.transform? id = some (t.followAll (path id)) :=
    hprogress.transform?_of_transform? ht
  refine ⟨hprogress.keys_nodup, fun live hlive => ?_, hprogress.cursors, fun dt visit hvisit => ?_,
    fun id t' ht' => ?_, fun id t ht => by simp [hmoved ht], fun id hid hnone => ?_,
    fun id t lane ht hlane => ?_, fun hnodup hopened others hothers hopens => ?_⟩
  · obtain ⟨-, lane, hlane, hkey, hcommands, hsprite⟩ := hprogress.live live hlive
    exact ⟨lane, hlane, hkey, hcommands, hsprite,
      Performance.cursorOf_of_mem hprogress.live_nodup hlive hkey⟩
  · obtain ⟨live, hlive, rfl⟩ := List.mem_map.mp hvisit
    exact Performance.visit_tick hprogress.live_nodup hlive (hprogress.live live hlive).1 dt
  · obtain ⟨t, hstart, rfl⟩ := hprogress.exists_start ht'
    exact ⟨t, path id, hstart, hpath id, rfl⟩
  · have hnil : lanes.filter (·.sprite = some id) = [] :=
      List.filter_eq_nil_iff.mpr fun lane hlane => by simpa using hnone lane hlane
    have hempty := hpath id
    rw [hnil] at hempty
    rw [hkept hid, hempty.eq_nil]
    simp [Body.follow_nil]
  · -- A single slice can be interleaved in one way only.
    have hsingle := hpath id
    rw [hlane] at hsingle
    rw [hmoved ht, hsingle.eq_of_singleton]
  · -- The slices depend on the run through the cursors alone.
    intro stage'' hequal id hid
    have hslices : (stage.performance.lanes.filter (·.sprite = some id)).flatMap
        stage'.performance.slice = (stage.performance.lanes.filter (·.sprite = some id)).flatMap
          stage''.performance.slice := by
      refine List.flatMap_congr fun lane hlane => ?_
      rw [Performance.slice, Performance.slice, hequal lane (List.mem_filter.mp hlane).1]
    rw [body?_of_nodup hmore hnodup hopened hid, body?_of_nodup hothers hnodup hopens hid]
    exact congrArg (fun texts => (stage.cast.body? id).map (·.follow texts)) hslices

/-- The cat has turned right when its playback was opened, and the slice that a second takes it
through moves it by 5. -/
theorem cat_follows_slice :
    let stage := after {} [.append ⟨"1"⟩ "Turn Right", .append ⟨"1"⟩ "Move Right 5", .play]
    let stage' := (stage.performAll [.tick 1]).1
    let lanes := stage.performance.lanes ++ stage.collect opens [.tick 1]
    (∀ call ∈ [Call.tick 1], call.keepsBodies = true) ∧
    stage'.cast.transform? ⟨1⟩ = some ⟨⟨105, 100⟩, 90⟩ ∧
    ∃ t merged, (stage.cast.transform? ⟨1⟩ = some t ∨
        stage.cast.contains ⟨1⟩ = false ∧ t = Body.entrance) ∧
      Interleaves ((lanes.filter (·.sprite = some ⟨1⟩)).map stage'.performance.slice) merged ∧
      (⟨⟨105, 100⟩, 90⟩ : Transform) = t.followAll merged := by
  have hmore : ∀ call ∈ [Call.tick 1], call.keepsBodies = true := by decide
  have hend : ((after {} [.append ⟨"1"⟩ "Turn Right", .append ⟨"1"⟩ "Move Right 5",
      .play]).performAll [.tick 1]).1.cast.transform? ⟨1⟩ = some ⟨⟨105, 100⟩, 90⟩ := by
    decide +kernel
  obtain ⟨-, -, -, -, hfollows, -⟩ := lanes_apply_slices {}
    [.append ⟨"1"⟩ "Turn Right", .append ⟨"1"⟩ "Move Right 5", .play] [.tick 1] hmore
  exact ⟨hmore, hend, hfollows ⟨1⟩ ⟨⟨105, 100⟩, 90⟩ hend⟩

end Stage

end SpriteStage
