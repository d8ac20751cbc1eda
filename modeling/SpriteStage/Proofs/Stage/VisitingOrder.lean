import Mathlib.Data.List.Pairwise
import SpriteStage.Proofs.Playback.Slices
import SpriteStage.Proofs.Stage.Timing

/-!
# The order in which lanes are visited

The lanes of a stage are visited one after the other in a tick, each with all the commands that are
due in it. As long as of any two lanes of one sprite one only turns it and the other only moves it,
the order makes no difference. The module introduces:

* `Command.keepsPosition` and `Command.keepsRotation`: turns and moves, which commute;
* `Lane.Apart`: two lanes do not get into each other's way, whatever is still to come of them;
* `Visit.drive_comm`: their visits can be made in either order.

The main statement, `tick_of_perm`, is about two orders of all lanes.
-/

namespace SpriteStage

/-! ## Turns and moves -/

namespace Command

/-- The command is a turn, or does nothing. -/
def keepsPosition : Command → Bool
  | turnRight | turnLeft | turnBy _ | idle => true
  | _ => false

/-- The command is a move, or does nothing. -/
def keepsRotation : Command → Bool
  | moveRight _ | moveForward | moveBackward | goTo _ | idle => true
  | _ => false

/-- Turns and moves can be made in either order. -/
theorem apply_comm {turn move : Command} (hturn : turn.keepsPosition = true)
    (hmove : move.keepsRotation = true) (t : Transform) :
    turn.apply (move.apply t) = move.apply (turn.apply t) := by
  cases turn with
  | turnRight | turnLeft | turnBy | idle =>
    cases move with
    | moveRight | moveForward | moveBackward | goTo | idle => rfl
    | turnRight | turnLeft | turnBy => cases hmove
  | moveRight | moveForward | moveBackward | goTo => cases hturn

end Command

namespace Transform

variable {turns moves : List String}

/-- A turn can be made before or after many moves. -/
theorem follow_followAll {turn : String} (hturn : (Command.ofText turn).keepsPosition = true)
    (hmoves : ∀ move ∈ moves, (Command.ofText move).keepsRotation = true) (t : Transform) :
    (t.followAll moves).follow turn = (t.follow turn).followAll moves := by
  induction moves generalizing t with
  | nil => rfl
  | cons move moves ih =>
    have hswap : (t.follow move).follow turn = (t.follow turn).follow move :=
      Command.apply_comm hturn (hmoves move (.head _)) t
    rw [followAll_cons, followAll_cons, ih fun move' hmove' => hmoves move' (.tail _ hmove'), hswap]

/-- Many turns and many moves can be made in either order. -/
theorem followAll_comm (hturns : ∀ turn ∈ turns, (Command.ofText turn).keepsPosition = true)
    (hmoves : ∀ move ∈ moves, (Command.ofText move).keepsRotation = true) (t : Transform) :
    t.followAll (turns ++ moves) = t.followAll (moves ++ turns) := by
  induction turns generalizing t with
  | nil => rw [List.nil_append, List.append_nil]
  | cons turn turns ih =>
    have hrest := ih fun turn' hturn' => hturns turn' (.tail _ hturn')
    -- The moves pass the other turns first, and then this one.
    calc t.followAll (turn :: turns ++ moves)
      _ = (t.follow turn).followAll (turns ++ moves) := rfl
      _ = ((t.follow turn).followAll moves).followAll turns := by rw [hrest, followAll_append]
      _ = ((t.followAll moves).follow turn).followAll turns := by
        rw [follow_followAll (hturns turn (.head _)) hmoves]
      _ = t.followAll (moves ++ turn :: turns) := (followAll_append t moves (turn :: turns)).symm

end Transform

/-! ## Lanes and their visits -/

/-- What stands under two numbers can be changed in either order, and under one number if the
changes commute. -/
theorem Roster.modify_comm {α : Type} (roster : Roster α) {a b : SpriteId} {f g : α → α}
    (h : a = b → ∀ x, g (f x) = f (g x)) :
    (roster.modify a f).modify b g = (roster.modify b g).modify a f := by
  simp only [modify, List.map_map]
  congr 2
  ext entry : 1
  obtain ⟨id, x⟩ := entry
  by_cases ha : id = a
  · by_cases hb : id = b
    · simp [← ha, ← hb, h (ha.symm.trans hb)]
    · simp [← ha, hb]
  · by_cases hb : id = b
    · simp [← hb, ha]
    · simp [ha, hb]

namespace Lane

/-- The commands that a lane has not applied yet. -/
def remaining (lane : Lane) : List Command :=
  (lane.commands.drop lane.cursor).map Command.ofText

/-- If two lanes drive the same sprite, then from now on one of them only turns it, and the other
only moves it. -/
def Apart (a b : Lane) : Prop :=
  a.sprite.isSome = true → a.sprite = b.sprite →
    (a.remaining.all (·.keepsPosition) = true ∧ b.remaining.all (·.keepsRotation) = true) ∨
      (a.remaining.all (·.keepsRotation) = true ∧ b.remaining.all (·.keepsPosition) = true)

instance : DecidableRel Lane.Apart := fun a b =>
  inferInstanceAs (Decidable (a.sprite.isSome = true → a.sprite = b.sprite → _ ∨ _))

theorem Apart.symm {a b : Lane} (h : a.Apart b) : b.Apart a :=
  fun hbound hsame => (h (hsame ▸ hbound) hsame.symm).symm.imp And.symm And.symm

instance : Std.Symm Lane.Apart := ⟨fun _ _ h => h.symm⟩

/-- A visit leaves less to come. -/
theorem remaining_visit_subset (lane : Lane) (seconds : Float32) :
    (lane.visit seconds).lane.remaining ⊆ lane.remaining := by
  refine List.map_subset _ ?_
  rw [commands_visit, cursor_visit, ← List.drop_drop]
  exact List.drop_subset _ _

theorem Apart.visit {a b : Lane} (h : a.Apart b) (seconds : Float32) :
    (a.visit seconds).lane.Apart (b.visit seconds).lane := by
  have hrest (lane : Lane) {p : Command → Bool} (hall : lane.remaining.all p = true) :
      (lane.visit seconds).lane.remaining.all p = true := by
    rw [List.all_eq_true] at hall ⊢
    exact fun command hcommand => hall command (lane.remaining_visit_subset seconds hcommand)
  exact fun hbound hsame =>
    (h hbound hsame).imp (And.imp (hrest a) (hrest b)) (And.imp (hrest a) (hrest b))

/-- What is due in a visit was still to come. -/
theorem forall_due_visit {lane : Lane} {p : Command → Bool} (h : lane.remaining.all p = true)
    (seconds : Float32) : ∀ text ∈ (lane.visit seconds).due, p (Command.ofText text) = true := by
  intro text htext
  rw [due_visit] at htext
  exact List.all_eq_true.mp h _ (List.mem_map_of_mem (List.mem_of_mem_take htext))

end Lane

/-- Two lanes that are apart can be visited in either order. -/
theorem Visit.drive_comm {a b : Lane} (h : a.Apart b) (seconds : Float32) (cast : Cast) :
    (b.visit seconds).drive ((a.visit seconds).drive cast) =
      (a.visit seconds).drive ((b.visit seconds).drive cast) := by
  simp only [drive, Lane.sprite_visit]
  cases ha : a.sprite with
  | none => rfl
  | some first =>
    cases hb : b.sprite with
    | none => rfl
    | some second =>
      refine Roster.modify_comm cast fun heq body? => ?_
      subst heq
      -- Both visits move one sprite, along commands that commute.
      have hcomm (t : Transform) : t.followAll ((a.visit seconds).due ++ (b.visit seconds).due) =
          t.followAll ((b.visit seconds).due ++ (a.visit seconds).due) := by
        rcases h (ha ▸ rfl) (ha.trans hb.symm) with ⟨hturns, hmoves⟩ | ⟨hmoves, hturns⟩
        · exact Transform.followAll_comm (Lane.forall_due_visit hturns seconds)
            (Lane.forall_due_visit hmoves seconds) t
        · exact (Transform.followAll_comm (Lane.forall_due_visit hturns seconds)
            (Lane.forall_due_visit hmoves seconds) t).symm
      have hbody (body : Body) : (body.follow (a.visit seconds).due).follow (b.visit seconds).due =
          (body.follow (b.visit seconds).due).follow (a.visit seconds).due := by
        rw [← Body.follow_append, ← Body.follow_append, Body.follow, Body.follow, funext hcomm]
      cases body? with
      | none => rfl
      | some body => exact congrArg some (hbody body)

/-! ## Ticks -/

namespace Performance

/-- The performance with its lanes in another order, or with other lanes. -/
def withLanes (performance : Performance) (lanes : List Lane) : Performance :=
  { performance with lanes }

variable (performance : Performance) {lanes lanes' : List Lane}

/-- In either order, the lanes move the sprites to the same places. -/
theorem cast_tick_of_perm (hapart : lanes.Pairwise Lane.Apart) (hperm : lanes.Perm lanes')
    (dt : Float32) :
    ((performance.withLanes lanes).tick dt).1.cast =
      ((performance.withLanes lanes').tick dt).1.cast := by
  have hvisits : (lanes.map (·.visit (performance.lapse dt))).Perm
      (lanes'.map (·.visit (performance.lapse dt))) := hperm.map _
  refine hvisits.foldl_eq' (fun visit hvisit visit' hvisit' cast => ?_) _
  -- A permutation is made of exchanges, so two visits at a time are enough.
  obtain ⟨lane, hlane, rfl⟩ := List.mem_map.mp hvisit
  obtain ⟨lane', hlane', rfl⟩ := List.mem_map.mp hvisit'
  by_cases heq : lane = lane'
  · rw [heq]
  · exact Visit.drive_comm (hapart.forall hlane hlane' heq) _ cast

/-- In either order, the same lanes play on. -/
theorem lanes_tick_of_perm (hperm : lanes.Perm lanes') (dt : Float32) :
    ((performance.withLanes lanes).tick dt).1.lanes.Perm
      ((performance.withLanes lanes').tick dt).1.lanes := by
  have hvisits : ((performance.withLanes lanes).visits dt).Perm
      ((performance.withLanes lanes').visits dt) := hperm.map _
  rw [lanes_tick, lanes_tick]
  exact (hvisits.filter _).map _

/-- A tick in another order leads to the same performance, but for the order of its lanes, and
reports the same. -/
theorem tick_of_perm_lanes (hapart : lanes.Pairwise Lane.Apart) (hperm : lanes.Perm lanes')
    (dt : Float32) :
    let next := (performance.withLanes lanes).tick dt
    let next' := (performance.withLanes lanes').tick dt
    next'.1 = next.1.withLanes next'.1.lanes ∧ next.1.lanes.Perm next'.1.lanes ∧
      next.2.Perm next'.2 := by
  intro next next'
  have hlanes : next.1.lanes.Perm next'.1.lanes := performance.lanes_tick_of_perm hperm dt
  have hcast : next.1.cast = next'.1.cast :=
    performance.cast_tick_of_perm hapart hperm dt
  -- The order of lanes is none of their timing, on which the tracker and the reports depend.
  have hintime : (performance.withLanes lanes).InTime (performance.withLanes lanes') :=
    ⟨rfl, rfl, hperm.map _⟩
  obtain ⟨hnext, hevents⟩ := hintime.tick dt
  have htracker : next.1.tracker = next'.1.tracker := hnext.tracker
  have hparts : next'.1 = ⟨next.1.clock, next'.1.cast, next'.1.tracker, next'.1.lanes⟩ := rfl
  rw [← hcast, ← htracker] at hparts
  exact ⟨hparts, hlanes, hevents⟩

/-- After a tick, lanes that were apart still are. -/
theorem pairwise_apart_tick {performance : Performance}
    (hapart : performance.lanes.Pairwise Lane.Apart) (dt : Float32) :
    (performance.tick dt).1.lanes.Pairwise Lane.Apart := by
  have hvisits : (performance.visits dt).Pairwise
      fun visit visit' => visit.lane.Apart visit'.lane :=
    hapart.map _ fun _ _ h => h.visit _
  rw [lanes_tick]
  exact (hvisits.filter _).map _ fun _ _ h => h

end Performance

namespace Stage

/-! ## Main statement -/

/-- The stage with its lanes in another order, or with other lanes. -/
def withLanes (stage : Stage) (lanes : List Lane) : Stage :=
  { stage with performance := stage.performance.withLanes lanes }

/-- The order in which lanes are visited does not matter if of any two lanes of one sprite one has
only turns left, and the other only moves; texts that are no commands may be among either. Then a
tick of any length leads, in both orders, to stages that differ in the order of the lanes only:
sprites, tracker, tabs, queues and monitor are the same, and each lane is at the same point. The
collisions are the same, and so are the lanes and playbacks that are reported to be over, although
perhaps not in the same order. Afterwards the lanes are still such. -/
theorem tick_of_perm (stage : Stage) {lanes lanes' : List Lane}
    (hapart : lanes.Pairwise Lane.Apart) (hperm : lanes.Perm lanes') (dt : Float32) :
    let next := (stage.withLanes lanes).tick dt
    let next' := (stage.withLanes lanes').tick dt
    next'.1 = next.1.withLanes next'.1.performance.lanes ∧
    next.1.performance.lanes.Perm next'.1.performance.lanes ∧
    next.2.filter (·.isCollision) = next'.2.filter (·.isCollision) ∧
    (next.2.filter (!·.isCollision)).Perm (next'.2.filter (!·.isCollision)) ∧
    next.1.performance.lanes.Pairwise Lane.Apart := by
  intro next next'
  obtain ⟨hperformance, hlanes, hevents⟩ := stage.performance.tick_of_perm_lanes hapart hperm dt
  -- Tabs may follow sprites, which are at the same places, so the monitor finds the same board.
  have hwatched : (stage.withLanes lanes).watched dt = (stage.withLanes lanes').watched dt := by
    have hcast := stage.performance.cast_tick_of_perm hapart hperm dt
    simp only [watched, withLanes, hcast]
    rfl
  have hboard : next.1.board = next'.1.board := by
    rw [board_tick, board_tick, hwatched]
  refine ⟨?_, hlanes, ?_, ?_, Performance.pairwise_apart_tick hapart dt⟩
  · have hnext : next'.1 =
        ⟨next.1.settings, next'.1.performance, next.1.index, next'.1.board⟩ := rfl
    have hperformance' : next'.1.performance =
        next.1.performance.withLanes next'.1.performance.lanes := hperformance
    rw [hperformance', ← hboard] at hnext
    exact hnext
  · rw [filter_collisions_tick, filter_collisions_tick, hwatched]
  · rw [filter_events_tick, filter_events_tick]
    exact hevents

/-- A lane turns the cat while another one moves it, and both end in one tick: whichever is visited
first, the cat stands in the same place, and the playback is reported to be over once. -/
theorem turning_and_moving_commute :
    let script : Script := ((∅ : Script).insert ⟨"1"⟩ ["Turn Right", "Turn 15 degrees"]).insert
      ⟨"1-2"⟩ ["Move Right 5", "Jump", "Go to X: 1, Y: 2"]
    let stage := after {} [.addTab, .playScript script]
    let lanes := stage.performance.lanes
    let next := (stage.withLanes lanes).tick 2
    let next' := (stage.withLanes lanes.reverse).tick 2
    lanes.Pairwise Lane.Apart ∧ lanes.Perm lanes.reverse ∧
    next.1.cast.transform? ⟨1⟩ = some ⟨⟨1, 2⟩, 105⟩ ∧
    next'.1 = next.1.withLanes next'.1.performance.lanes ∧
    next.2.filterMap Event.lane? = [(⟨0⟩, ⟨"1"⟩), (⟨0⟩, ⟨"1-2"⟩)] ∧
    next'.2.filterMap Event.lane? = [(⟨0⟩, ⟨"1-2"⟩), (⟨0⟩, ⟨"1"⟩)] ∧
    next'.2.filterMap Event.playback? = [⟨0⟩] ∧
    (next.2.filter (!·.isCollision)).Perm (next'.2.filter (!·.isCollision)) := by
  intro script stage lanes next next'
  have hapart : lanes.Pairwise Lane.Apart := by decide +kernel
  have hperm : lanes.Perm lanes.reverse := lanes.reverse_perm.symm
  obtain ⟨hnext, -, -, hevents, -⟩ := stage.tick_of_perm hapart hperm 2
  exact ⟨hapart, hperm, by decide +kernel, hnext, by decide +kernel, by decide +kernel,
    by decide +kernel, hevents⟩

end Stage

end SpriteStage
