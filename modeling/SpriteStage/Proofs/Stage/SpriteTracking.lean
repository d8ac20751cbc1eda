import SpriteStage.Proofs.Board.Reports
import SpriteStage.Proofs.Stage.Clusters

/-!
# Tabs that follow sprites

Where tabs follow sprites, what the monitor compares in a tick are the positions that the sprites
have at its end. The module introduces:

* `Stage.SpritesMeet`: two tabs drive different sprites, which stand so close that boxes of the
  standard size overlap;
* `OrderlyTabs.tracked_eq_position?`: where a tick leaves the tabs;
* `OrderlyTabs.exists_mem_tick_iff`: when a tick reports a collision of two ids;
* `isAwake_watched_of_tabs_ne`: a tab that moves wakes the monitor.

The main statement is `tabs_follow_sprites`.
-/

namespace SpriteStage

namespace Stage

variable {stage : Stage} {a b : ActionId}

/-- The ids belong to tabs of different sprites, and boxes at the positions of these overlap. -/
def SpritesMeet (stage : Stage) (a b : ActionId) : Prop :=
  ∃ s ∈ stage.tabs, ∃ t ∈ stage.tabs, s.id = a ∧ t.id = b ∧ s.sprite ≠ t.sprite ∧
    ∃ p ∈ stage.cast.body? s.sprite, ∃ q ∈ stage.cast.body? t.sprite,
      (Box.spanned p.position .standard).overlaps (.spanned q.position .standard) = true

/-! ## Tabs and their sprites -/

/-- What is seen of a tab. -/
theorem mem_tabs_iff {view : TabView} : view ∈ stage.tabs ↔
    ∃ tab ∈ stage.tabsInOrder, view = ⟨tab.id, tab.sprite, tab.label, tab.tracked⟩ := by
  simp only [tabs, tabsInOrder, List.mem_map, eq_comm]

/-- The ids of the tabs that are seen, by creation. -/
theorem OrderlyTabs.ids_tabs (h : stage.OrderlyTabs) :
    stage.tabs.map (·.id) = stage.index.ids.filter fun id => (stage.tab? id).isSome := by
  rw [← h.ids_tabsInOrder, tabs, List.map_map]
  rfl

/-- A tab is bound to the sprite that it names. -/
theorem OrderlyTabs.spriteOf?_of_mem (h : stage.OrderlyTabs) {tab : Tab}
    (htab : tab ∈ stage.tabsInOrder) : stage.index.spriteOf? tab.id = some tab.sprite := by
  obtain ⟨row, hrow, rfl⟩ := List.mem_map.mp (h.mem_tabsInOrder.mp htab)
  have hbinding := lookup_eq_some_of_mem h.ids_nodup (h.bound row hrow).1
  rw [TabIndex.spriteOf?, TabIndex.get?, hbinding]
  rfl

/-- Where tabs follow sprites, a tick leaves all of them at the positions of their sprites. -/
theorem OrderlyTabs.tracked_eq_position? (h : stage.OrderlyTabs)
    (hfollow : stage.board.monitor.followSprites = true) (dt : Float32) {tab : Tab}
    (htab : tab ∈ (stage.tick dt).1.tabsInOrder) :
    tab.tracked = (stage.tick dt).1.cast.position? tab.sprite := by
  obtain ⟨row, hrow, rfl⟩ := List.mem_map.mp ((h.tick dt).mem_tabsInOrder.mp htab)
  obtain ⟨old, tracked, _, -, heq, htracked⟩ := mem_rows_tick hrow
  rw [heq]
  exact htracked hfollow

/-- No two tabs on the board have one id. -/
theorem OrderlyTabs.nodup_tabIds (h : stage.OrderlyTabs) :
    (stage.board.tabs.map (·.id)).Nodup := by
  rw [(h.perm_tabsInOrder.map _).nodup_iff, h.ids_tabsInOrder]
  exact h.nodup_ids.filter _

/-! ## Reported collisions -/

/-- A pass reports a collision of two ids if it finds the board awake and their tabs collide. -/
theorem exists_mem_pass_iff {board : Board} (hids : (board.tabs.map (·.id)).Nodup) :
    (∃ reversed, ⟨a, b, reversed⟩ ∈ board.pass.2) ↔ board.isAwake = true ∧
      ∃ s ∈ board.tabs, ∃ t ∈ board.tabs,
        s.id = a ∧ t.id = b ∧ s.Collides board.monitor.followSprites t := by
  cases hawake : board.isAwake with
  | false => simp [Board.pass_of_asleep hawake]
  | true =>
    obtain ⟨pairs, hreports, hpairs, -⟩ :=
      exists_pairs_of_collisions board.monitor.followSprites hids
    rw [Board.pass_of_awake hawake]
    simp only [Board.found, hreports, List.mem_map, hpairs, true_and, Collision.mk.injEq]
    constructor
    · rintro ⟨_, ⟨s, t⟩, ⟨hs, ht, hcollides⟩, ha, hb, -⟩
      exact ⟨s, hs, t, ht, ha, hb, hcollides⟩
    · rintro ⟨s, hs, t, ht, ha, hb, hcollides⟩
      exact ⟨_, (s, t), ⟨hs, ht, hcollides⟩, ha, hb, rfl⟩

/-- A tick reports a collision of two ids if it finds the board awake and their tabs collide. -/
theorem OrderlyTabs.exists_mem_tick_iff (h : stage.OrderlyTabs) (dt : Float32) :
    (∃ reversed, .collided ⟨a, b, reversed⟩ ∈ (stage.tick dt).2) ↔
      (stage.watched dt).isAwake = true ∧ (stage.tick dt).1.Joined a b := by
  have hpass (reversed : Bool) : .collided ⟨a, b, reversed⟩ ∈ (stage.tick dt).2 ↔
      ⟨a, b, reversed⟩ ∈ (stage.watched dt).pass.2 := by
    rw [events_tick, List.mem_append, List.mem_map]
    constructor
    · rintro (hlane | ⟨_, hreport, ⟨⟩⟩)
      · cases isCollision_close _ _ _ _ hlane
      · exact hreport
    · exact fun hreport => .inr ⟨_, hreport, rfl⟩
  have hids : ((stage.watched dt).tabs.map (·.id)).Nodup := (h.watched dt).nodup_tabIds
  simp only [hpass, exists_mem_pass_iff hids]
  refine and_congr_right fun hawake => ?_
  -- The pass wipes marks, which matter to no collision.
  have htabs : (stage.tick dt).1.board.tabs =
      (stage.watched dt).tabs.map ({ · with touched := false }) := by
    rw [Board.tabs, rows_tick, hawake, Board.tabs, List.map_map, List.map_map]
    rfl
  have hfollow : (stage.tick dt).1.board.monitor.followSprites =
      (stage.watched dt).monitor.followSprites := by
    rw [followSprites_tick, (stage.watched_frame dt).2.2]
  simp only [Joined, (h.tick dt).mem_tabsInOrder, htabs, hfollow, List.mem_map,
    exists_exists_and_eq_and]
  rfl

/-- Where tabs stand at the positions of their sprites, they collide if their sprites meet. -/
theorem OrderlyTabs.joined_iff_spritesMeet (h : stage.OrderlyTabs) (hsizes : stage.StandardSizes)
    (hfollow : stage.board.monitor.followSprites = true)
    (htracked : ∀ tab ∈ stage.tabsInOrder, tab.tracked = stage.cast.position? tab.sprite) :
    stage.Joined a b ↔ stage.SpritesMeet a b := by
  have hsize {tab : Tab} (htab : tab ∈ stage.tabsInOrder) : tab.size = .standard := by
    obtain ⟨row, hrow, rfl⟩ := List.mem_map.mp (h.mem_tabsInOrder.mp htab)
    exact hsizes row hrow
  constructor
  · rintro ⟨s, hs, t, ht, rfl, rfl, -, hsprites, p, hp, q, hq, hoverlap⟩
    rw [htracked s hs, Cast.position?, Option.mem_map] at hp
    rw [htracked t ht, Cast.position?, Option.mem_map] at hq
    obtain ⟨body, hbody, rfl⟩ := hp
    obtain ⟨body', hbody', rfl⟩ := hq
    rw [hsize hs, hsize ht] at hoverlap
    exact ⟨_, mem_tabs_iff.mpr ⟨s, hs, rfl⟩, _, mem_tabs_iff.mpr ⟨t, ht, rfl⟩, rfl, rfl,
      hsprites hfollow, body, hbody, body', hbody', hoverlap⟩
  · rintro ⟨_, hfirst, _, hsecond, rfl, rfl, hsprites, body, hbody, body', hbody', hoverlap⟩
    obtain ⟨s, hs, rfl⟩ := mem_tabs_iff.mp hfirst
    obtain ⟨t, ht, rfl⟩ := mem_tabs_iff.mp hsecond
    refine ⟨s, hs, t, ht, rfl, rfl, fun hid => ?_, fun _ => hsprites, body.position, ?_,
      body'.position, ?_, ?_⟩
    · -- Tabs of one id are one tab, and that drives one sprite.
      exact hsprites (congrArg Tab.sprite (h.tab_inj hs ht hid))
    · rw [htracked s hs]
      exact Option.mem_map_of_mem _ hbody
    · rw [htracked t ht]
      exact Option.mem_map_of_mem _ hbody'
    · rw [hsize hs, hsize ht]
      exact hoverlap

/-! ## Tabs that move -/

/-- Changes of tabs in their rows are not seen if they keep what a view shows. -/
theorem tabs_of_rows_eq_map {stage stage' : Stage} {f : Tab → Tab}
    (hf : ∀ tab, (f tab).id = tab.id ∧ (f tab).sprite = tab.sprite ∧ (f tab).label = tab.label ∧
      (f tab).tracked = tab.tracked)
    (hindex : stage'.index = stage.index)
    (hrows : stage'.board.rows = stage.board.rows.map fun row => (row.1, f row.2)) :
    stage'.tabs = stage.tabs := by
  have htabs := tabsInOrder_of_rows_eq_map hindex hrows
  simp only [tabsInOrder] at htabs
  rw [tabs, htabs, List.map_map, tabs]
  refine List.map_congr_left fun tab _ => ?_
  obtain ⟨hid, hsprite, hlabel, htracked⟩ := hf tab
  simp [hid, hsprite, hlabel, htracked]

/-- What is seen of the tabs is made of the index and the rows. -/
theorem tabs_congr {stage stage' : Stage} (hindex : stage'.index = stage.index)
    (hrows : stage'.board.rows = stage.board.rows) : stage'.tabs = stage.tabs :=
  tabs_of_rows_eq_map (f := id) (fun _ => ⟨rfl, rfl, rfl, rfl⟩) hindex
    (hrows.trans (List.map_id _).symm)

/-- The look of the monitor is not seen from the tabs. -/
theorem tabs_tick (stage : Stage) (dt : Float32) :
    (stage.tick dt).1.tabs =
      ({ (stage.tick dt).1 with board := stage.watched dt } : Stage).tabs := by
  refine tabs_of_rows_eq_map (f := fun tab =>
    if (stage.watched dt).isAwake then { tab with touched := false } else tab) (fun tab => ?_) rfl
    (stage.rows_tick dt)
  split
  · exact ⟨rfl, rfl, rfl, rfl⟩
  · exact ⟨rfl, rfl, rfl, rfl⟩

/-- Where tabs follow sprites, a tab that moves wakes the monitor. -/
theorem isAwake_watched_of_tabs_ne {dt : Float32}
    (hfollow : stage.board.monitor.followSprites = true)
    (hmoved : (stage.tick dt).1.tabs ≠ stage.tabs) : (stage.watched dt).isAwake = true := by
  rw [isAwake_watched_iff]
  refine .inr ⟨hfollow, ?_⟩
  by_contra! hstill
  refine hmoved ((stage.tabs_tick dt).trans (tabs_congr rfl ?_))
  -- No row is written to.
  rw [rows_watched, hfollow]
  refine (List.map_congr_left fun row hrow => ?_).trans (List.map_id _)
  rw [if_pos rfl, Tab.track, if_pos (hstill row hrow)]
  rfl

/-! ## Main statement -/

/-- Where tabs follow sprites, every tick leaves each tab at the position that the sprite it is
bound to has by then, with or without a rotation, and without a position if the sprite was taken off
the stage. Every collision that is reported is one of two tabs of different sprites, and boxes at
the positions that these have at the end of the tick overlap. If the tick moves a tab, all such
collisions are reported, in both directions. -/
theorem tabs_follow_sprites (settings : Settings) (calls : List Call) (call : Call)
    (hfollow : settings.followSprites = true) (hcall : call.passesTime = true) :
    let stage := after settings calls
    let outcome := stage.perform call
    let stage' := outcome.stage
    (∀ tab ∈ stage'.tabs, stage'.index.spriteOf? tab.id = some tab.sprite ∧
      tab.tracked = (stage'.cast.body? tab.sprite).map (·.position)) ∧
    (∀ collision, .collided collision ∈ outcome.events →
      stage'.SpritesMeet collision.first collision.second) ∧
    (stage'.tabs ≠ stage.tabs → ∀ a b, stage'.SpritesMeet a b →
      ∃ reversed, .collided ⟨a, b, reversed⟩ ∈ outcome.events) := by
  intro stage outcome stage'
  obtain ⟨opened, dt, hboard, hindex, htick, hevents⟩ := stage.perform_of_passesTime hcall
  have hstage' : stage' = (opened.tick dt).1 := htick
  have horderly : opened.OrderlyTabs :=
    (orderlyTabs_after settings calls).of_rows_eq (congrArg (·.bindings) hindex)
      (congrArg (·.nextSlot) hboard) (congrArg (·.rows) hboard) fun _ hid => by
        rwa [queues, hboard]
  have hopened : opened.board.monitor.followSprites = true := by
    rw [hboard, followSprites_after, hfollow]
  have hsizes : stage'.StandardSizes := by
    have := standardSizes_after settings (calls ++ [call])
    rwa [after_concat] at this
  have htracked : ∀ tab ∈ stage'.tabsInOrder, tab.tracked = stage'.cast.position? tab.sprite := by
    rw [hstage']
    exact fun tab htab => horderly.tracked_eq_position? hopened dt htab
  have horderly' : stage'.OrderlyTabs := hstage' ▸ horderly.tick dt
  have hmeet {a b : ActionId} : stage'.Joined a b ↔ stage'.SpritesMeet a b :=
    horderly'.joined_iff_spritesMeet hsizes
      (by rw [hstage', followSprites_tick, hopened]) htracked
  have hreports (a b : ActionId) := horderly.exists_mem_tick_iff (a := a) (b := b) dt
  rw [← hstage'] at hreports
  refine ⟨fun view hview => ?_, fun collision hcollision => ?_, fun hmoved a b hab => ?_⟩
  · obtain ⟨tab, htab, rfl⟩ := mem_tabs_iff.mp hview
    exact ⟨horderly'.spriteOf?_of_mem htab, htracked tab htab⟩
  · have hreport := (hevents (.collided collision) rfl).mp hcollision
    exact hmeet.mp ((hreports _ _).mp ⟨collision.reversed, hreport⟩).2
  · have hawake : (opened.watched dt).isAwake = true := isAwake_watched_of_tabs_ne hopened <| by
      rwa [← hstage', tabs_congr hindex (congrArg (·.rows) hboard)]
    obtain ⟨reversed, hreport⟩ := (hreports a b).mpr ⟨hawake, hmeet.mpr hab⟩
    exact ⟨reversed, (hevents (.collided ⟨a, b, reversed⟩) rfl).mpr hreport⟩

/-- The cat goes to where the earth is, which has lost its rotation, and in the same tick their tabs
are tracked there and collide. -/
theorem cat_meets_earth :
    let settings : Settings := { followSprites := true }
    let calls : List Call := [.addSprite .earth, .addTab,
      .updateSprite ⟨2⟩ fun t => { t with position := ⟨400, 400⟩ }, .dropRotation ⟨2⟩,
      .start ((∅ : Script).insert ⟨"1"⟩ ["Go to X: 390, Y: 390"])]
    let outcome := (after settings calls).perform (.tick 1)
    settings.followSprites = true ∧ (Call.tick 1).passesTime = true ∧
    outcome.stage.tabs = [⟨⟨"1"⟩, ⟨1⟩, "Action 1", some ⟨390, 390⟩⟩,
      ⟨⟨"2"⟩, ⟨2⟩, "Action 1", some ⟨400, 400⟩⟩] ∧
    ∃ reversed, .collided ⟨⟨"1"⟩, ⟨"2"⟩, reversed⟩ ∈ outcome.events := by
  intro settings calls outcome
  have htabs : outcome.stage.tabs = [⟨⟨"1"⟩, ⟨1⟩, "Action 1", some ⟨390, 390⟩⟩,
      ⟨⟨"2"⟩, ⟨2⟩, "Action 1", some ⟨400, 400⟩⟩] := by
    have hstage (stage : Stage) : (stage.perform (.tick 1)).stage = (stage.tick 1).1 := rfl
    simp only [outcome]
    rw [hstage, tabs_tick]
    decide +kernel
  have hmoved : outcome.stage.tabs ≠ (after settings calls).tabs := by
    rw [htabs]
    decide +kernel
  have hcat : outcome.stage.cast.body? ⟨1⟩ = some ⟨.cat, ⟨390, 390⟩, some 0⟩ := by decide +kernel
  have hearth : outcome.stage.cast.body? ⟨2⟩ = some ⟨.earth, ⟨400, 400⟩, none⟩ := by decide +kernel
  have hmeet : outcome.stage.SpritesMeet ⟨"1"⟩ ⟨"2"⟩ := by
    rw [SpritesMeet, htabs]
    exact ⟨_, .head _, _, .tail _ (.head _), rfl, rfl, by decide, _, hcat, _, hearth, by decide⟩
  obtain ⟨-, -, hreports⟩ := tabs_follow_sprites settings calls (.tick 1) rfl rfl
  exact ⟨rfl, rfl, htabs, hreports hmoved _ _ hmeet⟩

end Stage

end SpriteStage
