import SpriteStage.Proofs.Playback.Bookkeeping

/-!
# What lanes apply in a tick

In a tick every lane moves past some of its commands, and its sprite is moved by them. The module
introduces:

* `Performance.steps performance dt`: the commands that are due in a tick, each with its lane, in
  the order in which they are applied;
* `Performance.cursorOf performance lane`: how far a lane has come, which is to its end if it does
  not play any more;
* `cursorOf_tick`: the steps of one lane are its commands between its cursors before and after;
* `body?_tick`: a body moves along the steps of the lanes that are bound to it.
-/

namespace SpriteStage

/-! ## Bodies -/

/-- Commands can be followed in two goes. -/
theorem Transform.followAll_append (t : Transform) (texts texts' : List String) :
    t.followAll (texts ++ texts') = (t.followAll texts).followAll texts' :=
  List.foldl_append

namespace Body

/-- Move a body along commands. -/
def follow (body : Body) (texts : List String) : Body := body.move (·.followAll texts)

theorem follow_nil (body : Body) : body.follow [] = body := by
  obtain ⟨kind, position, _ | rotation⟩ := body
  · rfl
  · rfl

theorem follow_append (body : Body) (texts texts' : List String) :
    body.follow (texts ++ texts') = (body.follow texts).follow texts' := by
  obtain ⟨kind, position, _ | rotation⟩ := body
  · rfl
  · simp [follow, move, transform?, place, Transform.followAll_append]

/-- A body that has a transform is moved along with it. -/
theorem transform?_follow (body : Body) (texts : List String) :
    (body.follow texts).transform? = body.transform?.map (·.followAll texts) := by
  obtain ⟨kind, position, _ | rotation⟩ := body
  · rfl
  · rfl

end Body

/-- Changing what stands under a number does not take the number away. -/
theorem Roster.contains_modify {α : Type} (roster : Roster α) (a b : SpriteId) (f : α → α) :
    (roster.modify a f).contains b = roster.contains b := by
  rw [contains, get?_modify, contains]
  split <;> simp

/-- What has a body was put up. -/
theorem Cast.contains_of_body? {cast : Cast} {id : SpriteId} {body : Body}
    (h : cast.body? id = some body) : cast.contains id = true := by
  rw [body?, Option.join_eq_some_iff] at h
  rw [Roster.contains, h]
  rfl

theorem Cast.transform?_eq_some_iff {cast : Cast} {id : SpriteId} {t : Transform} :
    cast.transform? id = some t ↔ ∃ body, cast.body? id = some body ∧ body.transform? = some t :=
  Option.bind_eq_some_iff

/-! ## Steps -/

/-- The commands that are due in the lanes with a property. -/
def taken (steps : List (Lane × String)) (p : Lane → Bool) : List String :=
  (steps.filter (p ·.1)).map (·.2)

theorem taken_append (steps steps' : List (Lane × String)) (p : Lane → Bool) :
    taken (steps ++ steps') p = taken steps p ++ taken steps' p := by
  rw [taken, List.filter_append, List.map_append]
  rfl

theorem taken_eq_nil {steps : List (Lane × String)} {p : Lane → Bool}
    (h : ∀ step ∈ steps, ¬ p step.1 = true) : taken steps p = [] := by
  rw [taken, List.filter_eq_nil_iff.mpr h]
  rfl

namespace Visit

/-- The commands that are due in a visit, with the lane. -/
def steps (visit : Visit) : List (Lane × String) := visit.due.map (visit.lane, ·)

theorem taken_steps (visit : Visit) (p : Lane → Bool) :
    taken visit.steps p = if p visit.lane then visit.due else [] := by
  rw [taken, steps, List.filter_map, List.map_map]
  split <;> simp_all [Function.comp_def]

/-- A visit moves the body that its lane is bound to, and no other. -/
theorem body?_drive (visit : Visit) (cast : Cast) (id : SpriteId) :
    Cast.body? (visit.drive cast) id =
      (cast.body? id).map (·.follow (taken visit.steps (·.sprite = some id))) := by
  rw [taken_steps, drive]
  cases hsprite : visit.lane.sprite with
  | none => simp [Body.follow_nil]
  | some sprite =>
    simp only [Cast.body?, Cast.move, Roster.get?_modify, Option.some.injEq]
    by_cases heq : id = sprite
    · -- Without a body there is nothing to move.
      subst heq
      cases cast.get? id with
      | none => simp
      | some body => cases body <;> simp [Body.follow]
    · simp [heq, Ne.symm heq, Body.follow_nil]

end Visit

/-- A visit does not move a lane past its end. -/
theorem Lane.cursor_visit_le {lane : Lane} (h : lane.cursor ≤ lane.commands.length)
    (seconds : Float32) :
    (lane.visit seconds).lane.cursor ≤ (lane.visit seconds).lane.commands.length := by
  have hsteps := steps_pace_le (lane.commands.length - lane.cursor)
    (if lane.started then lane.cooldown - seconds else lane.cooldown)
  rw [cursor_visit, commands_visit, paceOf]
  omega

theorem Lane.le_cursor_visit (lane : Lane) (seconds : Float32) :
    lane.cursor ≤ (lane.visit seconds).lane.cursor := by
  rw [cursor_visit]
  exact Nat.le_add_right _ _

/-- A visit finishes a lane only at its end. -/
theorem Lane.cursor_visit_of_finished {lane : Lane} (h : lane.cursor ≤ lane.commands.length)
    {seconds : Float32} (hfinished : (lane.visit seconds).finished = true) :
    (lane.visit seconds).lane.cursor = lane.commands.length := by
  rw [finished_visit, paceOf] at hfinished
  rw [cursor_visit, paceOf, steps_pace_of_finished hfinished]
  omega

/-- The commands that are due in a visit are those between the cursors. -/
theorem Lane.due_visit_eq_slice (lane : Lane) (seconds : Float32) :
    (lane.visit seconds).due = (lane.commands.drop lane.cursor).take
      ((lane.visit seconds).lane.cursor - lane.cursor) := by
  rw [due_visit, cursor_visit, Nat.add_sub_cancel_left]

namespace Performance

/-- The commands that are due in a tick, each with its lane, in the order in which they are
applied. -/
def steps (performance : Performance) (dt : Float32) : List (Lane × String) :=
  (performance.visits dt).flatMap Visit.steps

variable {performance : Performance}

/-- A tick moves bodies along the steps of the lanes that are bound to them. -/
theorem body?_tick (performance : Performance) (dt : Float32) (id : SpriteId) :
    (performance.tick dt).1.cast.body? id = (performance.cast.body? id).map
      (·.follow (taken (performance.steps dt) (·.sprite = some id))) := by
  have hfold (cast : Cast) (visits : List Visit) :
      Cast.body? (visits.foldl Visit.drive cast) id = (cast.body? id).map
        (·.follow (taken (visits.flatMap Visit.steps) (·.sprite = some id))) := by
    induction visits generalizing cast with
    | nil => simp [taken, Body.follow_nil]
    | cons visit visits ih =>
      rw [List.foldl_cons, ih, Visit.body?_drive, Option.map_map, List.flatMap_cons, taken_append]
      simp only [Function.comp_def, Body.follow_append]
  exact hfold performance.cast (performance.visits dt)

/-- What is kept when single bodies are changed is kept by a tick, which does no more to the
cast. -/
theorem cast_tick_induction {P : Cast → Prop}
    (hmodify : ∀ (cast : Cast) id f, P cast → P (cast.modify id f)) (performance : Performance)
    (dt : Float32) (h : P performance.cast) : P (performance.tick dt).1.cast := by
  have hfold (visits : List Visit) (cast : Cast) (hcast : P cast) :
      P (visits.foldl Visit.drive cast) := by
    induction visits generalizing cast with
    | nil => exact hcast
    | cons visit visits ih =>
      refine ih _ ?_
      rw [Visit.drive]
      split
      · exact hcast
      · exact hmodify _ _ _ hcast
  exact hfold (performance.visits dt) performance.cast h

theorem contains_tick (performance : Performance) (dt : Float32) (id : SpriteId) :
    (performance.tick dt).1.cast.contains id = performance.cast.contains id :=
  cast_tick_induction (P := fun cast => cast.contains id = performance.cast.contains id)
    (fun cast _ _ hcast => (Roster.contains_modify cast _ id _).trans hcast) performance dt rfl

theorem castNumber_tick (performance : Performance) (dt : Float32) :
    (performance.tick dt).1.cast.nextNumber = performance.cast.nextNumber :=
  cast_tick_induction (P := fun cast => cast.nextNumber = performance.cast.nextNumber)
    (fun _ _ _ hcast => hcast) performance dt rfl

theorem castCurrent_tick (performance : Performance) (dt : Float32) :
    (performance.tick dt).1.cast.current = performance.cast.current :=
  cast_tick_induction (P := fun cast => cast.current = performance.cast.current)
    (fun _ _ _ hcast => hcast) performance dt rfl

/-! ## Cursors -/

/-- How far a lane has come: to the cursor that it has, or to its end if it does not play any
more. -/
def cursorOf (performance : Performance) (lane : Lane) : Nat :=
  match performance.lanes.find? (·.key = lane.key) with
  | some live => live.cursor
  | none => lane.commands.length

/-- Where no two lanes have the same key, a lane that plays is found. -/
theorem cursorOf_of_mem (hnodup : (performance.lanes.map Lane.key).Nodup) {live lane : Lane}
    (hlive : live ∈ performance.lanes) (hkey : live.key = lane.key) :
    performance.cursorOf lane = live.cursor := by
  have hfound : performance.lanes.find? (·.key = lane.key) = some live := by
    obtain ⟨before, after, hsplit⟩ := List.append_of_mem hlive
    rw [hsplit, List.map_append, List.nodup_append] at hnodup
    refine List.find?_eq_some_iff_append.mpr ⟨by simpa using hkey, before, after, hsplit, ?_⟩
    intro other hother
    have hne := hnodup.2.2 other.key (List.mem_map_of_mem hother) live.key (.head _)
    simpa [← hkey] using hne
  rw [cursorOf, hfound]

/-- A lane that does not play is at its end. -/
theorem cursorOf_of_not_mem {lane : Lane} (h : lane.key ∉ performance.lanes.map Lane.key) :
    performance.cursorOf lane = lane.commands.length := by
  have hnone : performance.lanes.find? (·.key = lane.key) = none := by
    simpa using fun other hother hkey => h (List.mem_map.mpr ⟨other, hother, hkey⟩)
  rw [cursorOf, hnone]

theorem nodup_tick (hnodup : (performance.lanes.map Lane.key).Nodup) (dt : Float32) :
    ((performance.tick dt).1.lanes.map Lane.key).Nodup := by
  have hperm := (performance.perm_lanes_tick dt).nodup_iff.mpr hnodup
  rw [List.map_append] at hperm
  exact (List.nodup_append.mp hperm).2.1

/-- A lane that plays on does so from where its visit left it. -/
theorem mem_lanes_tick_iff {lane : Lane} {dt : Float32} :
    lane ∈ (performance.tick dt).1.lanes ↔ ∃ live ∈ performance.lanes,
      (live.visit (performance.lapse dt)).finished = false ∧
        (live.visit (performance.lapse dt)).lane = lane := by
  simp [lanes_tick, visits, and_assoc]

theorem exists_of_mem_steps {lanes : List Lane} {seconds : Float32} {step : Lane × String}
    (h : step ∈ (lanes.map (·.visit seconds)).flatMap Visit.steps) :
    ∃ live ∈ lanes, step.1.key = live.key ∧ step.1.sprite = live.sprite := by
  obtain ⟨visit, hvisit, hstep⟩ := List.mem_flatMap.mp h
  obtain ⟨live, hlive, rfl⟩ := List.mem_map.mp hvisit
  obtain ⟨text, -, rfl⟩ := List.mem_map.mp hstep
  exact ⟨live, hlive, rfl, rfl⟩

/-- The steps of a lane that plays are the commands that are due in its visit. -/
theorem taken_steps_of_mem (hnodup : (performance.lanes.map Lane.key).Nodup) {live : Lane}
    (hlive : live ∈ performance.lanes) (dt : Float32) :
    taken (performance.steps dt) (·.key = live.key) = (live.visit (performance.lapse dt)).due := by
  obtain ⟨before, after, hsplit⟩ := List.append_of_mem hlive
  rw [hsplit, List.map_append, List.map_cons, List.nodup_append, List.nodup_cons] at hnodup
  -- The other lanes have other keys, so none of these steps is theirs.
  have hnone {lanes : List Lane} (h : live.key ∉ lanes.map Lane.key) :
      taken ((lanes.map (·.visit (performance.lapse dt))).flatMap Visit.steps)
        (·.key = live.key) = [] := by
    refine taken_eq_nil fun step hstep hkey => ?_
    obtain ⟨other, hother, heq, -⟩ := exists_of_mem_steps hstep
    exact h (List.mem_map.mpr ⟨other, hother, heq.symm.trans (of_decide_eq_true hkey)⟩)
  rw [steps, visits, hsplit, List.map_append, List.map_cons, List.flatMap_append,
    List.flatMap_cons, taken_append, taken_append, Visit.taken_steps,
    hnone fun hmem => hnodup.2.2 _ hmem _ (.head _) rfl, hnone hnodup.2.1.1,
    if_pos (by simp), List.append_nil]
  rfl

/-- A lane that is visited plays on, or it is taken away at its end. -/
theorem visit_tick (hnodup : (performance.lanes.map Lane.key).Nodup) {live : Lane}
    (hlive : live ∈ performance.lanes) (hcursor : live.cursor ≤ live.commands.length)
    (dt : Float32) :
    (live.visit (performance.lapse dt)).lane ∈ (performance.tick dt).1.lanes ∨
      (live.visit (performance.lapse dt)).lane.key ∉
          (performance.tick dt).1.lanes.map Lane.key ∧
        (live.visit (performance.lapse dt)).lane.cursor =
          (live.visit (performance.lapse dt)).lane.commands.length := by
  cases hfinished : (live.visit (performance.lapse dt)).finished with
  | false => exact .inl (mem_lanes_tick_iff.mpr ⟨live, hlive, hfinished, rfl⟩)
  | true =>
    refine .inr ⟨?_, Lane.cursor_visit_of_finished hcursor hfinished⟩
    -- The lane is among those that finish, and no lane that plays on has its key.
    have hkeys := performance.perm_lanes_tick dt
    rw [List.map_append] at hkeys
    refine List.disjoint_of_nodup_append (hkeys.nodup_iff.mpr hnodup) (List.mem_map_of_mem ?_)
    refine List.mem_map.mpr ⟨_, List.mem_filter.mpr ⟨?_, hfinished⟩, rfl⟩
    exact List.mem_map_of_mem hlive

theorem mem_keys_of_tick {dt : Float32} {key : PlaybackId × ActionId}
    (h : key ∈ (performance.tick dt).1.lanes.map Lane.key) :
    key ∈ performance.lanes.map Lane.key := by
  refine (performance.perm_lanes_tick dt).subset ?_
  rw [List.map_append]
  exact List.mem_append_right _ h

/-- In a tick a lane moves past those of its commands that are its steps, and not past its end. -/
theorem cursorOf_tick (hnodup : (performance.lanes.map Lane.key).Nodup) {lane : Lane}
    (hlane : ∀ live ∈ performance.lanes, live.key = lane.key →
      live.commands = lane.commands ∧ live.cursor ≤ live.commands.length) (dt : Float32) :
    performance.cursorOf lane ≤ (performance.tick dt).1.cursorOf lane ∧
      (performance.tick dt).1.cursorOf lane ≤ lane.commands.length ∧
      taken (performance.steps dt) (·.key = lane.key) =
        (lane.commands.drop (performance.cursorOf lane)).take
          ((performance.tick dt).1.cursorOf lane - performance.cursorOf lane) := by
  by_cases hplays : lane.key ∈ performance.lanes.map Lane.key
  · -- The lane plays: it is visited, and what is due then lies between its cursors.
    obtain ⟨live, hlive, hkey⟩ := List.mem_map.mp hplays
    obtain ⟨hcommands, hcursor⟩ := hlane live hlive hkey
    have hdue := taken_steps_of_mem hnodup hlive dt
    rw [hkey, live.due_visit_eq_slice, hcommands] at hdue
    rw [hdue, cursorOf_of_mem hnodup hlive hkey]
    have hmono := live.le_cursor_visit (performance.lapse dt)
    rcases visit_tick hnodup hlive hcursor dt with hmem | ⟨hgone, hend⟩
    · rw [cursorOf_of_mem (nodup_tick hnodup dt) hmem hkey]
      exact ⟨hmono, hcommands ▸ live.cursor_visit_le hcursor _, rfl⟩
    · rw [Lane.key_visit, hkey] at hgone
      rw [Lane.commands_visit, hcommands] at hend
      rw [cursorOf_of_not_mem hgone, hend]
      exact ⟨hend ▸ hmono, Nat.le_refl _, rfl⟩
  · -- The lane does not play: it is at its end, and stays there.
    have hgone : lane.key ∉ (performance.tick dt).1.lanes.map Lane.key :=
      fun hmem => hplays (mem_keys_of_tick hmem)
    have hnone : taken (performance.steps dt) (·.key = lane.key) = [] := by
      refine taken_eq_nil fun step hstep hkey => ?_
      obtain ⟨live, hlive, heq, -⟩ := exists_of_mem_steps hstep
      exact hplays (List.mem_map.mpr ⟨live, hlive, heq.symm.trans (of_decide_eq_true hkey)⟩)
    rw [cursorOf_of_not_mem hplays, cursorOf_of_not_mem hgone, hnone]
    simp

end Performance

end SpriteStage
