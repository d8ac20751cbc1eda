import SpriteStage.Proofs.Playback.Interleaving
import SpriteStage.Proofs.Playback.Slices

/-!
# How far lanes have come

Between two moments, lanes move past commands, and new ones join them. The module introduces:

* `Performance.Progress opening performance lanes steps`: since `opening`, the `lanes` have applied
  the `steps`, each lane those between its cursor and where `performance` has got to with it, and
  every body was moved along the steps of its lanes;
* `Progress.start`, `Progress.tick` and `Progress.edit`: openings, ticks and edits that leave bodies
  alone take it further;
* `Performance.slice` and `Progress.interleaves`: the steps along which a body was moved interleave
  the slices of its lanes;
* `Progress.exists_start`: where the body of a sprite was before these steps.
-/

namespace SpriteStage

/-- New sprites may have been put up, and all older ones are as they were. -/
def Cast.Extends (cast cast' : Cast) : Prop :=
  ∀ id, (cast'.contains id = cast.contains id ∧ cast'.body? id = cast.body? id) ∨
    (cast.contains id = false ∧ cast'.contains id = true ∧
      ∃ kind, cast'.body? id = some (Body.new kind))

namespace Performance

/-- The commands that a lane has moved past since it stood at its cursor. -/
def slice (performance : Performance) (lane : Lane) : List String :=
  (lane.commands.drop lane.cursor).take (performance.cursorOf lane - lane.cursor)

/-- What has happened since `opening`: `lanes` are those that played then and those that joined, as
they were when they played or joined, and `steps` are what they applied. -/
structure Progress (opening performance : Performance) (lanes : List Lane)
    (steps : List (Lane × String)) : Prop where
  /-- Lanes can be told apart. -/
  keys_nodup : (lanes.map Lane.key).Nodup
  /-- Lanes belong to playbacks that were opened. -/
  numbered : ∀ lane ∈ lanes, lane.playback.number < performance.tracker.nextNumber
  /-- Lanes drive sprites that were put up. -/
  enrolled : ∀ lane ∈ lanes, ∀ id, lane.sprite = some id → performance.cast.contains id = true
  /-- Lanes that play can be told apart. -/
  live_nodup : (performance.lanes.map Lane.key).Nodup
  /-- Lanes that play are among the lanes, further on. -/
  live : ∀ live ∈ performance.lanes, live.cursor ≤ live.commands.length ∧ ∃ lane ∈ lanes,
    live.key = lane.key ∧ live.commands = lane.commands ∧ live.sprite = lane.sprite
  /-- Lanes move forward, and not past their end. -/
  cursors : ∀ lane ∈ lanes,
    lane.cursor ≤ performance.cursorOf lane ∧ performance.cursorOf lane ≤ lane.commands.length
  /-- A lane applies what it moves past. -/
  passed : ∀ lane ∈ lanes, taken steps (·.key = lane.key) = performance.slice lane
  /-- Steps are taken by the lanes. -/
  origin : ∀ step ∈ steps, ∃ lane ∈ lanes, step.1.key = lane.key ∧ step.1.sprite = lane.sprite
  /-- Bodies move along the steps of their lanes. -/
  kept : ∀ id, opening.cast.contains id = true → performance.cast.contains id = true ∧
    performance.cast.body? id =
      (opening.cast.body? id).map (·.follow (taken steps (·.sprite = some id)))
  /-- Bodies that came later have moved along the steps of their lanes, too. -/
  added : ∀ id, opening.cast.contains id = false → performance.cast.contains id = true →
    ∃ kind, performance.cast.body? id =
      some ((Body.new kind).follow (taken steps (·.sprite = some id)))

variable {opening performance : Performance} {lanes : List Lane} {steps : List (Lane × String)}

/-- Of a lane that plays, the lanes tell the commands. -/
theorem Progress.commands_eq (h : Progress opening performance lanes steps) {live lane : Lane}
    (hlive : live ∈ performance.lanes) (hlane : lane ∈ lanes) (hkey : live.key = lane.key) :
    live.commands = lane.commands := by
  obtain ⟨other, hother, hkey', hcommands, -⟩ := (h.live live hlive).2
  rwa [List.inj_on_of_nodup_map h.keys_nodup hother hlane (hkey'.symm.trans hkey)] at hcommands

/-- The steps along which a body is moved interleave what its lanes move past. -/
theorem Progress.interleaves (h : Progress opening performance lanes steps) (id : SpriteId) :
    Interleaves ((lanes.filter (·.sprite = some id)).map performance.slice)
      (taken steps (·.sprite = some id)) := by
  -- Steps of one lane move one sprite, so choosing a sprite first loses none of them.
  have hbound {step : Lane × String} (hstep : step ∈ steps) {lane : Lane} (hlane : lane ∈ lanes)
      (hkey : step.1.key = lane.key) : step.1.sprite = lane.sprite := by
    obtain ⟨other, hother, hkey', hsprite⟩ := h.origin step hstep
    rwa [List.inj_on_of_nodup_map h.keys_nodup hother hlane (hkey'.symm.trans hkey)] at hsprite
  have hnodup : ((lanes.filter (·.sprite = some id)).map Lane.key).Nodup :=
    h.keys_nodup.sublist (List.filter_sublist.map Lane.key)
  have hkeyed : Interleaves (((lanes.filter (·.sprite = some id)).map Lane.key).map fun k =>
      ((steps.filter (·.1.sprite = some id)).filter (·.1.key = k)).map (·.2))
      (taken steps (·.sprite = some id)) := by
    refine interleaves_of_keyed hnodup fun step hstep => ?_
    obtain ⟨hstep, hsprite⟩ := List.mem_filter.mp hstep
    obtain ⟨lane, hlane, hkey, heq⟩ := h.origin step hstep
    refine List.mem_map.mpr ⟨lane, List.mem_filter.mpr ⟨hlane, ?_⟩, hkey.symm⟩
    exact decide_eq_true (heq.symm.trans (of_decide_eq_true hsprite))
  -- The steps of a lane are the slice that it has moved past.
  rw [List.map_map] at hkeyed
  refine (List.map_congr_left fun lane hlane => ?_) ▸ hkeyed
  obtain ⟨hlane, hsprite⟩ := List.mem_filter.mp hlane
  rw [← h.passed lane hlane, taken, Function.comp_apply, List.filter_filter]
  congr 1
  refine List.filter_congr fun step hstep => ?_
  by_cases hkey : step.1.key = lane.key
  · simp [hkey, hbound hstep hlane hkey, of_decide_eq_true hsprite]
  · simp [hkey]

/-- A transform that was there at the opening is moved along the steps of its lanes. -/
theorem Progress.transform?_of_transform? (h : Progress opening performance lanes steps)
    {id : SpriteId} {t : Transform} (ht : opening.cast.transform? id = some t) :
    performance.cast.transform? id =
      some (t.followAll (taken steps (·.sprite = some id))) := by
  obtain ⟨body, hbody, hplace⟩ := Cast.transform?_eq_some_iff.mp ht
  rw [Cast.transform?, (h.kept id (Cast.contains_of_body? hbody)).2, hbody, Option.map_some,
    Option.bind_some, Body.transform?_follow, hplace, Option.map_some]

/-- A sprite that has a transform has followed the steps of its lanes, from the transform that it
had at the opening, or from the entrance if it came later. -/
theorem Progress.exists_start (h : Progress opening performance lanes steps) {id : SpriteId}
    {t' : Transform} (ht' : performance.cast.transform? id = some t') :
    ∃ t, (opening.cast.transform? id = some t ∨
        opening.cast.contains id = false ∧ t = Body.entrance) ∧
      t' = t.followAll (taken steps (·.sprite = some id)) := by
  obtain ⟨body', hbody', hplace⟩ := Cast.transform?_eq_some_iff.mp ht'
  cases hid : opening.cast.contains id with
  | true =>
    rw [(h.kept id hid).2] at hbody'
    obtain ⟨body, hbody, rfl⟩ := Option.map_eq_some_iff.mp hbody'
    rw [Body.transform?_follow] at hplace
    obtain ⟨t, ht, rfl⟩ := Option.map_eq_some_iff.mp hplace
    exact ⟨t, .inl (Cast.transform?_eq_some_iff.mpr ⟨body, hbody, ht⟩), rfl⟩
  | false =>
    obtain ⟨kind, hnew⟩ := h.added id hid (Cast.contains_of_body? hbody')
    obtain rfl : body' = (Body.new kind).follow _ := Option.some.inj (hbody'.symm.trans hnew)
    rw [Body.transform?_follow] at hplace
    exact ⟨Body.entrance, .inr ⟨rfl, rfl⟩, (Option.some.inj hplace).symm⟩

/-- Sprites that were put up keep their transforms. -/
theorem Progress.exists_transform? (h : Progress opening performance lanes steps)
    (hopening : ∀ id, opening.cast.contains id = true → ∃ t, opening.cast.transform? id = some t)
    {id : SpriteId} (hid : performance.cast.contains id = true) :
    ∃ t, performance.cast.transform? id = some t := by
  cases hid' : opening.cast.contains id with
  | true =>
    obtain ⟨t, ht⟩ := hopening id hid'
    exact ⟨_, h.transform?_of_transform? ht⟩
  | false =>
    obtain ⟨kind, hnew⟩ := h.added id hid' hid
    refine ⟨Body.entrance.followAll (taken steps (·.sprite = some id)),
      Cast.transform?_eq_some_iff.mpr ⟨_, hnew, ?_⟩⟩
    rw [Body.transform?_follow]
    rfl

/-! ## Steps that take it further -/

/-- Nothing has happened yet. -/
theorem Progress.refl (hnodup : (performance.lanes.map Lane.key).Nodup)
    (hnumbered : ∀ lane ∈ performance.lanes,
      lane.playback.number < performance.tracker.nextNumber)
    (henrolled : ∀ lane ∈ performance.lanes, ∀ id, lane.sprite = some id →
      performance.cast.contains id = true)
    (hcursors : ∀ lane ∈ performance.lanes, lane.cursor ≤ lane.commands.length) :
    Progress performance performance performance.lanes [] where
  keys_nodup := hnodup
  numbered := hnumbered
  enrolled := henrolled
  live_nodup := hnodup
  live := fun lane hlane => ⟨hcursors lane hlane, lane, hlane, rfl, rfl, rfl⟩
  cursors := by
    intro lane hlane
    rw [cursorOf_of_mem hnodup hlane rfl]
    exact ⟨Nat.le_refl _, hcursors lane hlane⟩
  passed := by
    intro lane hlane
    rw [slice, cursorOf_of_mem hnodup hlane rfl, Nat.sub_self, List.take_zero]
    rfl
  origin := nofun
  kept := by
    intro id hid
    refine ⟨hid, ?_⟩
    simp [taken, Body.follow_nil]
  added := by
    intro id hid hcontained
    rw [hid] at hcontained
    cases hcontained

/-- Edits that leave the bodies alone change nothing but that sprites are put up. -/
theorem Progress.edit (h : Progress opening performance lanes steps) {performance' : Performance}
    (hlanes : performance'.lanes = performance.lanes)
    (htracker : performance'.tracker = performance.tracker)
    (hcast : Cast.Extends performance.cast performance'.cast) :
    Progress opening performance' lanes steps where
  keys_nodup := h.keys_nodup
  numbered := htracker ▸ h.numbered
  enrolled := by
    intro lane hlane id hid
    have hcontained := h.enrolled lane hlane id hid
    rcases hcast id with ⟨hsame, -⟩ | ⟨-, hnew, -⟩
    · rw [hsame, hcontained]
    · exact hnew
  live_nodup := hlanes ▸ h.live_nodup
  live := hlanes ▸ h.live
  cursors := by
    simp only [cursorOf, hlanes]
    exact h.cursors
  passed := by
    simp only [slice, cursorOf, hlanes]
    exact h.passed
  origin := h.origin
  kept := by
    intro id hid
    obtain ⟨hcontained, hbody⟩ := h.kept id hid
    rcases hcast id with ⟨hsame, hbody'⟩ | ⟨hnot, -⟩
    · exact ⟨hsame.trans hcontained, hbody'.trans hbody⟩
    · rw [hcontained] at hnot
      cases hnot
  added := by
    intro id hid hcontained
    rcases hcast id with ⟨hsame, hbody⟩ | ⟨hnot, -, kind, hbody⟩
    · rw [hbody]
      exact h.added id hid (hsame.symm.trans hcontained)
    · -- No lane was bound to this sprite before it was there.
      have hnone : taken steps (·.sprite = some id) = [] := by
        refine taken_eq_nil fun step hstep hsprite => ?_
        obtain ⟨lane, hlane, -, heq⟩ := h.origin step hstep
        have hlost := h.enrolled lane hlane id (heq.symm.trans (of_decide_eq_true hsprite))
        rw [hnot] at hlost
        cases hlost
      exact ⟨kind, by rw [hbody, hnone, Body.follow_nil]⟩

section Opening

variable {script : Script} {spriteOf? : ActionId → Option SpriteId}

/-- An opening leaves the older lanes where they are. -/
theorem cursorOf_start_of_lt (hnodup : (performance.lanes.map Lane.key).Nodup)
    (hlive : ∀ live ∈ performance.lanes,
      live.playback.number < performance.tracker.nextNumber) {lane : Lane}
    (hlane : lane.playback.number < performance.tracker.nextNumber) :
    (performance.start script spriteOf?).2.1.cursorOf lane = performance.cursorOf lane := by
  have hnodup' : ((performance.start script spriteOf?).2.1.lanes.map Lane.key).Nodup :=
    nodup_append_newLanes hnodup hlive
  by_cases hplays : lane.key ∈ performance.lanes.map Lane.key
  · obtain ⟨live, hmem, hkey⟩ := List.mem_map.mp hplays
    rw [cursorOf_of_mem hnodup hmem hkey,
      cursorOf_of_mem hnodup' (List.mem_append_left _ hmem) hkey]
  · -- A lane that is over is not opened again, as the new lanes have a new number.
    rw [cursorOf_of_not_mem hplays, cursorOf_of_not_mem]
    intro hmem
    obtain ⟨live, hmem, hkey⟩ := List.mem_map.mp hmem
    rcases List.mem_append.mp hmem with hmem | hmem
    · exact hplays (List.mem_map.mpr ⟨live, hmem, hkey⟩)
    · exact key_ne_of_mem_newLanes hlane hmem hkey.symm

/-- New lanes start at their first commands. -/
theorem cursorOf_start_of_mem (hnodup : (performance.lanes.map Lane.key).Nodup)
    (hlive : ∀ live ∈ performance.lanes,
      live.playback.number < performance.tracker.nextNumber) {lane : Lane}
    (hlane : lane ∈ performance.newLanes script spriteOf?) :
    (performance.start script spriteOf?).2.1.cursorOf lane = 0 ∧ lane.cursor = 0 := by
  have hcursor : lane.cursor = 0 := by
    obtain ⟨_, -, rfl⟩ := List.mem_map.mp hlane
    rfl
  refine ⟨?_, hcursor⟩
  rw [cursorOf_of_mem (nodup_append_newLanes hnodup hlive) (List.mem_append_right _ hlane) rfl,
    hcursor]

/-- The lanes of an opening join, if they drive sprites that were put up. -/
theorem Progress.start (h : Progress opening performance lanes steps)
    (hbound : ∀ action id, spriteOf? action = some id → performance.cast.contains id = true) :
    Progress opening (performance.start script spriteOf?).2.1
      (lanes ++ performance.newLanes script spriteOf?) steps := by
  have hlive : ∀ live ∈ performance.lanes,
      live.playback.number < performance.tracker.nextNumber := by
    intro live hlive
    obtain ⟨lane, hlane, hkey, -⟩ := (h.live live hlive).2
    have hplayback : live.playback = lane.playback := congrArg (·.1) hkey
    exact hplayback ▸ h.numbered lane hlane
  -- Only the new lanes need a look at the opening; for the others all is as it was.
  have hold {lane : Lane} (hlane : lane ∈ lanes) :
      (performance.start script spriteOf?).2.1.cursorOf lane = performance.cursorOf lane :=
    cursorOf_start_of_lt h.live_nodup hlive (h.numbered lane hlane)
  refine
    { keys_nodup := nodup_append_newLanes h.keys_nodup h.numbered
      numbered := fun lane hlane => ?_
      enrolled := fun lane hlane id hid => ?_
      live_nodup := nodup_append_newLanes h.live_nodup hlive
      live := fun live hmem => ?_
      cursors := fun lane hlane => ?_
      passed := fun lane hlane => ?_
      origin := fun step hstep => ?_
      kept := h.kept
      added := h.added }
  · rw [tracker_start, Tracker.nextNumber_begin]
    rcases List.mem_append.mp hlane with hlane | hlane
    · exact Nat.lt_succ_of_lt (h.numbered lane hlane)
    · rw [playback_of_mem_newLanes hlane]
      exact Nat.lt_succ_self _
  · rcases List.mem_append.mp hlane with hlane | hlane
    · exact h.enrolled lane hlane id hid
    · obtain ⟨⟨action, _⟩, -, rfl⟩ := List.mem_map.mp hlane
      exact hbound action id hid
  · rcases List.mem_append.mp hmem with hmem | hmem
    · obtain ⟨hcursor, lane, hlane, hsame⟩ := h.live live hmem
      exact ⟨hcursor, lane, List.mem_append_left _ hlane, hsame⟩
    · rw [(cursorOf_start_of_mem h.live_nodup hlive hmem).2]
      exact ⟨Nat.zero_le _, live, List.mem_append_right _ hmem, rfl, rfl, rfl⟩
  · rcases List.mem_append.mp hlane with hlane | hlane
    · rw [hold hlane]
      exact h.cursors lane hlane
    · obtain ⟨hcursor, hzero⟩ := cursorOf_start_of_mem h.live_nodup hlive hlane
      rw [hcursor, hzero]
      exact ⟨Nat.le_refl _, Nat.zero_le _⟩
  · rcases List.mem_append.mp hlane with hlane | hlane
    · rw [slice, hold hlane]
      exact h.passed lane hlane
    · -- A new lane has not moved, and no step so far was its own.
      obtain ⟨hcursor, -⟩ := cursorOf_start_of_mem h.live_nodup hlive hlane
      rw [slice, hcursor, Nat.zero_sub, List.take_zero]
      refine taken_eq_nil fun step hstep hkey => ?_
      obtain ⟨old, hmem, heq, -⟩ := h.origin step hstep
      exact key_ne_of_mem_newLanes (h.numbered old hmem) hlane
        (heq.symm.trans (of_decide_eq_true hkey))
  · obtain ⟨lane, hlane, hsame⟩ := h.origin step hstep
    exact ⟨lane, List.mem_append_left _ hlane, hsame⟩

end Opening

/-- A tick takes lanes further, and their bodies with them. -/
theorem Progress.tick (h : Progress opening performance lanes steps) (dt : Float32) :
    Progress opening (performance.tick dt).1 lanes (steps ++ performance.steps dt) := by
  have hmoves {lane : Lane} (hlane : lane ∈ lanes) := cursorOf_tick h.live_nodup
    (fun live hlive hkey => ⟨h.commands_eq hlive hlane hkey, (h.live live hlive).1⟩) dt
  -- A body that follows the older steps and then those of the tick follows all of them.
  have hbody (body : Option Body) (id : SpriteId) :
      (body.map (·.follow (taken steps (·.sprite = some id)))).map
          (·.follow (taken (performance.steps dt) (·.sprite = some id))) =
        body.map (·.follow (taken (steps ++ performance.steps dt) (·.sprite = some id))) := by
    rw [Option.map_map, taken_append]
    simp only [Function.comp_def, Body.follow_append]
  refine
    { keys_nodup := h.keys_nodup
      numbered := by rw [nextNumber_tick]; exact h.numbered
      enrolled := fun lane hlane id hid => ?_
      live_nodup := nodup_tick h.live_nodup dt
      live := fun live hlive => ?_
      cursors := fun lane hlane => ?_
      passed := fun lane hlane => ?_
      origin := fun step hstep => ?_
      kept := fun id hid => ?_
      added := fun id hid hcontained => ?_ }
  · rw [contains_tick]
    exact h.enrolled lane hlane id hid
  · obtain ⟨before, hbefore, -, rfl⟩ := mem_lanes_tick_iff.mp hlive
    obtain ⟨hcursor, lane, hlane, hsame⟩ := h.live before hbefore
    exact ⟨before.cursor_visit_le hcursor _, lane, hlane, hsame⟩
  · obtain ⟨hle, hend, -⟩ := hmoves hlane
    exact ⟨Nat.le_trans (h.cursors lane hlane).1 hle, hend⟩
  · obtain ⟨hle, -, htaken⟩ := hmoves hlane
    have hcursor := (h.cursors lane hlane).1
    -- The tick goes on where the slice so far ends, so the two join to one slice.
    have hsum : (performance.tick dt).1.cursorOf lane - lane.cursor =
        (performance.cursorOf lane - lane.cursor) +
          ((performance.tick dt).1.cursorOf lane - performance.cursorOf lane) := by omega
    rw [taken_append, h.passed lane hlane, htaken, slice, slice, hsum, List.take_add,
      List.drop_drop, Nat.add_sub_of_le hcursor]
  · rcases List.mem_append.mp hstep with hstep | hstep
    · exact h.origin step hstep
    · obtain ⟨live, hlive, hkey, hsprite⟩ := exists_of_mem_steps hstep
      obtain ⟨lane, hlane, hkey', -, hsprite'⟩ := (h.live live hlive).2
      exact ⟨lane, hlane, hkey.trans hkey', hsprite.trans hsprite'⟩
  · obtain ⟨hcontained, hsofar⟩ := h.kept id hid
    rw [contains_tick, body?_tick, hsofar, hbody]
    exact ⟨hcontained, rfl⟩
  · rw [contains_tick] at hcontained
    obtain ⟨kind, hsofar⟩ := h.added id hid hcontained
    refine ⟨kind, ?_⟩
    rw [body?_tick, hsofar]
    exact hbody (some (.new kind)) id

end Performance

end SpriteStage
