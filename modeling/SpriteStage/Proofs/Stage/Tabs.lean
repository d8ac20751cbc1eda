import Mathlib.Data.List.Nodup
import Mathlib.Data.List.TakeWhile
import SpriteStage.Proofs.Board.Pass
import SpriteStage.Proofs.Stage.Reachable
import SpriteStage.Text.Cut
import SpriteStage.Text.Integer

/-!
# Tabs of reachable stages

The index lists tabs in the order in which they were created, the board keeps them in rows whose
order means nothing. On reachable stages the two agree:

* `Stage.OrderlyTabs` is the invariant: no id is bound twice, slots are given out one after the
  other, and every row holds the tab that its slot was given to, whose id has a queue;
* `orderlyTabs_after` proves it of all reachable stages;
* `Stage.tabsInOrder` lists the tabs by creation, and `perm_tabsInOrder` says that these are the
  tabs in the rows.
-/

namespace SpriteStage

/-! ## Ids of tabs -/

namespace ActionId

private theorem toList_toString (n : Nat) : (toString n).toList = Nat.toDigits 10 n :=
  Nat.toList_repr

/-- A number is written without dashes. -/
private theorem not_dash_of_mem_toString {n : Nat} {c : Char} (h : c ∈ (toString n).toList) :
    (c == '-') = false := by
  have hdigit : c.isDigit = true := by
    rw [toList_toString] at h
    exact Nat.isDigit_of_mem_toDigits (by decide) (by decide) h
  refine beq_eq_false_iff_ne.mpr ?_
  rintro rfl
  exact absurd hdigit (by decide)

/-- Cutting an id at its dash gives the number of the sprite and the counter. -/
private theorem cutAt?_forTab (sprite : SpriteId) (index : Nat) :
    Text.cutAt? (· == '-') (forTab sprite index).text.toList =
      if index ≤ 1 then none
      else some ((toString sprite.number).toList, (toString index).toList) := by
  have hsprite : ∀ c ∈ (toString sprite.number).toList, (c == '-') = false :=
    fun c hc => not_dash_of_mem_toString hc
  rw [forTab]
  split
  · -- The first tab of a sprite bears its bare number, and digits are no dashes.
    have hkept : (toString sprite.number).toList.dropWhile (!· == '-') = [] :=
      List.dropWhile_eq_nil_iff.mpr fun c hc => by simp [hsprite c hc]
    rw [SpriteId.toString_eq, Text.cutAt?, hkept]
  · have htext : (toString sprite ++ "-" ++ toString index).toList =
        (toString sprite.number).toList ++ '-' :: (toString index).toList := by
      rw [SpriteId.toString_eq, String.toList_append, String.toList_append, List.append_assoc]
      rfl
    rw [htext]
    exact Text.cutAt?_append hsprite rfl

/-- The id of a tab tells its sprite and its place among the tabs of that sprite. -/
theorem forTab_inj {a b : SpriteId} {i j : Nat} (hi : 1 ≤ i) (hj : 1 ≤ j)
    (h : forTab a i = forTab b j) : a = b ∧ i = j := by
  have number_inj {m n : Nat} (hmn : (toString m).toList = (toString n).toList) : m = n := by
    rw [toList_toString, toList_toString] at hmn
    simpa [Text.digits?_toDigits] using congrArg Text.digits? hmn
  have hcut := congrArg (fun id : ActionId => Text.cutAt? (· == '-') id.text.toList) h
  simp only [cutAt?_forTab] at hcut
  cases a with | mk a => cases b with | mk b =>
  -- Only the ids of later tabs can be cut, so a first tab has no id in common with a later one.
  split at hcut <;> split at hcut
  · next hi' hj' =>
    simp only [forTab, if_pos hi', if_pos hj'] at h
    have hab : a = b := number_inj (congrArg (·.text.toList) h)
    exact ⟨congrArg _ hab, by omega⟩
  · cases hcut
  · cases hcut
  · simp only [Option.some.injEq, Prod.mk.injEq] at hcut
    exact ⟨congrArg _ (number_inj hcut.1), number_inj hcut.2⟩

end ActionId

/-! ## Lists of bindings -/

section Lookup

variable {α β : Type} [BEq α] [LawfulBEq α] {l : List (α × β)} {k : α} {v : β}

/-- What is found under a key was entered there. -/
theorem mem_of_lookup_eq_some (h : l.lookup k = some v) : (k, v) ∈ l := by
  obtain ⟨before, after, rfl, -⟩ := List.lookup_eq_some_iff.mp h
  simp

/-- Something is found under every key that was entered, and under no other. -/
theorem isSome_lookup_iff : (l.lookup k).isSome = true ↔ k ∈ l.map (·.1) := by
  rw [← not_iff_not, Bool.not_eq_true, Option.isSome_eq_false_iff, Option.isNone_iff_eq_none,
    List.lookup_eq_none_iff, List.mem_map]
  simp only [bne_iff_ne, not_exists, not_and]
  exact forall_congr' fun entry => forall_congr' fun _ => ne_comm

/-- Where no key was entered twice, everything that was entered is found. -/
theorem lookup_eq_some_of_mem (hnodup : (l.map (·.1)).Nodup) (h : (k, v) ∈ l) :
    l.lookup k = some v := by
  obtain ⟨before, after, rfl⟩ := List.append_of_mem h
  refine List.lookup_eq_some_iff.mpr ⟨before, after, rfl, fun entry hentry => ?_⟩
  rw [List.map_append, List.nodup_append] at hnodup
  have hne : entry.1 ≠ k := hnodup.2.2 entry.1 (List.mem_map_of_mem hentry) k (by simp)
  exact bne_iff_ne.mpr hne.symm

end Lookup

namespace Stage

/-! ## The invariant -/

/-- The index and the board agree about the tabs. -/
structure OrderlyTabs (stage : Stage) : Prop where
  /-- No id is bound twice. -/
  ids_nodup : (stage.index.bindings.map (·.1)).Nodup
  /-- Slots were given out one after the other. -/
  slots : stage.index.bindings.reverse.map (·.2.slot) = List.range stage.board.nextSlot
  /-- A tab's id is made of its sprite and its place among the tabs of that sprite. -/
  named : ∀ entry ∈ stage.index.bindings, ∃ place, 1 ≤ place ∧
    place < stage.index.nextIndex entry.2.sprite ∧ entry.1 = .forTab entry.2.sprite place
  /-- No slot stands in two rows. -/
  rows_nodup : (stage.board.rows.map (·.1)).Nodup
  /-- A row holds the tab that its slot was given to. -/
  bound : ∀ row ∈ stage.board.rows,
    (row.2.id, ⟨row.2.sprite, row.1⟩) ∈ stage.index.bindings ∧ row.2.order = row.1
  /-- Every tab has a queue, whether or not it is still on the board. -/
  queued : ∀ entry ∈ stage.index.bindings, stage.queues.contains entry.1 = true

variable {stage stage' : Stage}

/-- The invariant looks at the bindings, at which queues there are, and in the rows at what a tab is
from its creation on. -/
theorem OrderlyTabs.congr (h : stage.OrderlyTabs)
    (hbindings : stage'.index.bindings = stage.index.bindings)
    (hslot : stage'.board.nextSlot = stage.board.nextSlot)
    (hnodup : (stage'.board.rows.map (·.1)).Nodup)
    (hrows : ∀ row ∈ stage'.board.rows, ∃ tab, (row.1, tab) ∈ stage.board.rows ∧
      tab.id = row.2.id ∧ tab.sprite = row.2.sprite ∧ tab.order = row.2.order)
    (hqueues : ∀ id, stage.queues.contains id = true → stage'.queues.contains id = true) :
    stage'.OrderlyTabs where
  ids_nodup := hbindings ▸ h.ids_nodup
  slots := by rw [hbindings, hslot, h.slots]
  named := by
    intro entry hentry
    rw [hbindings] at hentry
    simpa only [TabIndex.nextIndex, hbindings] using h.named entry hentry
  rows_nodup := hnodup
  bound := by
    intro row hrow
    obtain ⟨tab, htab, hid, hsprite, horder⟩ := hrows row hrow
    rw [hbindings, ← hid, ← hsprite, ← horder]
    exact h.bound (row.1, tab) htab
  queued := by
    intro entry hentry
    rw [hbindings] at hentry
    exact hqueues entry.1 (h.queued entry hentry)

/-- Changes of tabs in their rows keep the invariant, if tabs stay what they are from their
creation on. -/
theorem OrderlyTabs.map_rows (h : stage.OrderlyTabs) {f : Nat → Tab → Tab}
    (hf : ∀ slot tab, (f slot tab).id = tab.id ∧ (f slot tab).sprite = tab.sprite ∧
      (f slot tab).order = tab.order)
    (hbindings : stage'.index.bindings = stage.index.bindings)
    (hslot : stage'.board.nextSlot = stage.board.nextSlot)
    (hrows : stage'.board.rows = stage.board.rows.map fun row => (row.1, f row.1 row.2))
    (hqueues : ∀ id, stage.queues.contains id = true → stage'.queues.contains id = true) :
    stage'.OrderlyTabs := by
  refine h.congr hbindings hslot ?_ ?_ hqueues
  · rw [hrows, List.map_map]
    exact h.rows_nodup
  · intro row hrow
    rw [hrows, List.mem_map] at hrow
    obtain ⟨old, hold, rfl⟩ := hrow
    obtain ⟨hid, hsprite, horder⟩ := hf old.1 old.2
    exact ⟨old.2, hold, hid.symm, hsprite.symm, horder.symm⟩

/-- What is done to neither the index nor the rows keeps the invariant, if no queue is lost. -/
theorem OrderlyTabs.of_rows_eq (h : stage.OrderlyTabs)
    (hbindings : stage'.index.bindings = stage.index.bindings)
    (hslot : stage'.board.nextSlot = stage.board.nextSlot)
    (hrows : stage'.board.rows = stage.board.rows)
    (hqueues : ∀ id, stage.queues.contains id = true → stage'.queues.contains id = true) :
    stage'.OrderlyTabs :=
  h.congr hbindings hslot (hrows ▸ h.rows_nodup)
    (fun row hrow => ⟨row.2, hrows ▸ hrow, rfl, rfl, rfl⟩) hqueues

theorem orderlyTabs_bare (settings : Settings) : (bare settings).OrderlyTabs where
  ids_nodup := List.nodup_nil
  slots := rfl
  named := nofun
  rows_nodup := List.nodup_nil
  bound := nofun
  queued := nofun

/-- As many slots were given out as there are bindings. -/
theorem OrderlyTabs.nextSlot_eq (h : stage.OrderlyTabs) :
    stage.board.nextSlot = stage.index.bindings.length := by
  simpa using (congrArg List.length h.slots).symm

/-- Slots that were given out lie before the next one. -/
theorem OrderlyTabs.slot_lt (h : stage.OrderlyTabs) {entry : ActionId × TabBinding}
    (hentry : entry ∈ stage.index.bindings) : entry.2.slot < stage.board.nextSlot := by
  have hslot : entry.2.slot ∈ stage.index.bindings.reverse.map (·.2.slot) :=
    List.mem_map_of_mem (f := fun entry : ActionId × TabBinding => entry.2.slot)
      (List.mem_reverse.mpr hentry)
  rw [h.slots] at hslot
  exact List.mem_range.mp hslot

/-- The id of the next tab of a sprite is new. -/
theorem OrderlyTabs.nextTab_fresh (h : stage.OrderlyTabs) (sprite : SpriteId) :
    (stage.nextTab sprite).id ∉ stage.index.bindings.map (·.1) := by
  rw [List.mem_map]
  rintro ⟨entry, hentry, hid⟩
  obtain ⟨place, hpos, hlt, hname⟩ := h.named entry hentry
  obtain ⟨hsprite, hplace⟩ :=
    ActionId.forTab_inj hpos (by simp [TabIndex.nextIndex]) (hname.symm.trans hid)
  rw [hsprite] at hlt
  omega

/-- A queue that exists goes on existing when one is asked for. -/
theorem contains_ensure_of_contains {queues : Queues} {a b : ActionId}
    (h : queues.contains b = true ∨ b = a) : (queues.ensure a).contains b = true := by
  rw [Queues.ensure]
  split
  · next ha =>
    rcases h with h | rfl
    · exact h
    · exact ha
  · rcases h with h | rfl <;> simp_all [Queues.contains, Queues.write]

/-- A new tab gets a new id, and the slot and the row that come next. -/
theorem OrderlyTabs.withTab (h : stage.OrderlyTabs) (sprite : SpriteId) :
    (stage.withTab sprite).OrderlyTabs where
  ids_nodup := List.nodup_cons.mpr ⟨h.nextTab_fresh sprite, h.ids_nodup⟩
  slots := by
    simp only [Stage.withTab, TabIndex.enter, Board.place, List.reverse_cons, List.map_append,
      h.slots, List.range_succ]
    rfl
  named := by
    have hindex (other : SpriteId) : stage.index.nextIndex other ≤
        (stage.withTab sprite).index.nextIndex other := by
      rw [Stage.withTab, TabIndex.nextIndex_enter]
      omega
    -- The new tab takes the next place of its sprite; the places of older tabs stay taken.
    intro entry hentry
    rcases List.mem_cons.mp hentry with rfl | hentry
    · refine ⟨stage.index.nextIndex sprite, by simp [TabIndex.nextIndex], ?_, rfl⟩
      simp [TabIndex.nextIndex_enter]
    · obtain ⟨place, hpos, hlt, hname⟩ := h.named entry hentry
      exact ⟨place, hpos, hlt.trans_le (hindex _), hname⟩
  rows_nodup := by
    simp only [Stage.withTab, Board.place, List.map_append, List.map_cons, List.map_nil]
    refine List.Nodup.append h.rows_nodup (List.nodup_singleton _) ?_
    rw [List.disjoint_singleton]
    intro hslot
    obtain ⟨row, hrow, heq⟩ := List.mem_map.mp hslot
    have hlt := h.slot_lt (h.bound row hrow).1
    simp only [heq, lt_irrefl] at hlt
  bound := by
    intro row hrow
    rcases List.mem_append.mp hrow with hrow | hrow
    · exact ⟨.tail _ (h.bound row hrow).1, (h.bound row hrow).2⟩
    · rw [List.mem_singleton.mp hrow]
      exact ⟨.head _, h.nextSlot_eq.symm⟩
  queued := by
    intro entry hentry
    rcases List.mem_cons.mp hentry with rfl | hentry
    · exact contains_ensure_of_contains (.inr rfl)
    · exact contains_ensure_of_contains (.inl (h.queued entry hentry))

/-- Where the last row fills the gap, no other row is touched. -/
theorem rows_remove? {board board' : Board} {slot : Nat}
    (h : board.remove? slot = some board') :
    ∃ last, board.rows = board.rows.dropLast ++ [last] ∧
      board' = { board with
        rows := board.rows.dropLast.map fun row => if row.1 = slot then last else row } := by
  simp only [Board.remove?, Option.bind_eq_bind, Option.bind_eq_some_iff, Option.pure_def,
    Option.some.injEq] at h
  obtain ⟨tab, -, last, hlast, rfl⟩ := h
  refine ⟨last, ?_, rfl⟩
  have hne : board.rows ≠ [] := by
    rintro hnil
    rw [hnil] at hlast
    cases hlast
  rw [List.getLast?_eq_some_getLast hne, Option.some.injEq] at hlast
  rw [← hlast, List.dropLast_append_getLast hne]

/-- Taking a tab away moves at most one other row. -/
theorem OrderlyTabs.remove (h : stage.OrderlyTabs) {slot : Nat} {board : Board}
    (hboard : stage.board.remove? slot = some board) :
    OrderlyTabs { stage with board } := by
  obtain ⟨last, hrows, rfl⟩ := rows_remove? hboard
  have hnodup := h.rows_nodup
  rw [hrows, List.map_append, List.nodup_append'] at hnodup
  refine h.congr rfl rfl ?_ ?_ fun id hid => hid
  · have hslots : (stage.board.rows.dropLast.map fun row =>
        if row.1 = slot then last else row).map (·.1) =
          (stage.board.rows.dropLast.map (·.1)).map fun s => if s = slot then last.1 else s := by
      rw [List.map_map, List.map_map]
      exact List.map_congr_left fun row _ => apply_ite Prod.fst _ _ _
    rw [hslots]
    -- The slot of the last row takes the place of the one that is removed.
    refine List.Nodup.map_on (fun a ha b hb hab => ?_) hnodup.1
    have hlast {s : Nat} (hs : s ∈ stage.board.rows.dropLast.map (·.1)) : s ≠ last.1 :=
      fun heq => hnodup.2.2 hs (by simp [heq])
    split at hab <;> split at hab
    · next ha' hb' => rw [ha', hb']
    · exact absurd hab.symm (hlast hb)
    · exact absurd hab (hlast ha)
    · exact hab
  · intro row hrow
    obtain ⟨old, hold, rfl⟩ := List.mem_map.mp hrow
    have hmem {r : Nat × Tab} (hr : r ∈ stage.board.rows.dropLast ++ [last]) :
        r ∈ stage.board.rows := hrows ▸ hr
    split
    · exact ⟨last.2, hmem (by simp), rfl, rfl, rfl⟩
    · exact ⟨old.2, hmem (by simp [hold]), rfl, rfl, rfl⟩

/-- Tracking changes where a tab is, and marks it or not. -/
theorem track_eq (tab : Tab) (position : Option Position) :
    tab.track position =
      { tab with tracked := position, touched := (tab.track position).touched } := by
  rw [Tab.track]
  split
  · next heq => rw [← heq]
  · rfl

/-- Tracking changes where a tab is, not what it is. -/
theorem track_keeps (tab : Tab) (position : Option Position) :
    (tab.track position).id = tab.id ∧ (tab.track position).sprite = tab.sprite ∧
      (tab.track position).order = tab.order := by
  rw [track_eq]
  exact ⟨rfl, rfl, rfl⟩

/-- After an edit, a row holds a tab that was there before, except for its tracked position and its
mark, or it is the row of a new tab. -/
theorem mem_rows_edit {call : Call} (hedit : stage.Edit call stage') {row : Nat × Tab}
    (hrow : row ∈ stage'.board.rows) :
    (∃ old tracked touched, (row.1, old) ∈ stage.board.rows ∧
      row.2 = { old with tracked, touched }) ∨
    ∃ sprite, (call = .addTab ∨ call = .addTabFor sprite) ∧
      row = (stage.board.nextSlot, stage.nextTab sprite) := by
  have hsame (hold : row ∈ stage.board.rows) : ∃ old tracked touched,
      (row.1, old) ∈ stage.board.rows ∧ row.2 = { old with tracked, touched } :=
    ⟨row.2, row.2.tracked, row.2.touched, hold, rfl⟩
  cases hedit with
  | addTab sprite hcall _ =>
    rcases List.mem_append.mp hrow with hrow | hrow
    · exact .inl (hsame hrow)
    · exact .inr ⟨sprite, hcall, List.mem_singleton.mp hrow⟩
  | track position =>
    obtain ⟨⟨slot, old⟩, hold, rfl⟩ := List.mem_map.mp hrow
    dsimp only
    split
    · exact .inl ⟨old, _, _, hold, track_eq old position⟩
    · exact .inl ⟨old, _, _, hold, rfl⟩
  | removeTab _ hboard =>
    obtain ⟨last, hrows, rfl⟩ := rows_remove? hboard
    obtain ⟨old, hold, rfl⟩ := List.mem_map.mp hrow
    refine .inl (hsame ?_)
    rw [hrows, List.mem_append, List.mem_singleton]
    split
    · exact .inr rfl
    · exact .inl hold
  | _ => exact .inl (hsame hrow)

theorem contains_append (queues : Queues) (a b : ActionId) (command : String)
    (h : queues.contains b = true) : (queues.append a command).contains b = true := by
  simp_all [Queues.append, Queues.contains, Queues.write]

theorem contains_of_deleteAt? {queues queues' : Queues} {a b : ActionId} {place : Nat}
    (hdelete : queues.deleteAt? a place = some queues') (h : queues.contains b = true) :
    queues'.contains b = true := by
  simp only [Queues.deleteAt?, Option.ite_none_right_eq_some, Option.some.injEq] at hdelete
  obtain ⟨-, rfl⟩ := hdelete
  simp_all [Queues.contains, Queues.write]

theorem OrderlyTabs.edit (h : stage.OrderlyTabs) {call : Call} (hedit : stage.Edit call stage') :
    stage'.OrderlyTabs := by
  cases hedit with
  | refused => exact h
  | addSprite | selectSprite | updateSprite | takeOffSprite | dropRotation | selectTab =>
    exact h.of_rows_eq rfl rfl rfl fun _ hid => hid
  | addTab sprite => exact h.withTab sprite
  | @track _ slot _ position =>
    refine h.map_rows (f := fun s tab => if s = slot then tab.track position else tab) ?_ rfl rfl
      rfl fun _ hid => hid
    intro s tab
    split
    · exact track_keeps tab position
    · exact ⟨rfl, rfl, rfl⟩
  | removeTab _ hboard => exact h.remove hboard
  | append id command =>
    exact h.of_rows_eq rfl rfl rfl fun other hother => contains_append _ id other command hother
  | deleteAt hqueues =>
    exact h.of_rows_eq rfl rfl rfl fun other hother => contains_of_deleteAt? hqueues hother
  | swap hqueues =>
    refine h.of_rows_eq rfl rfl rfl fun other hother => ?_
    exact (Queues.contains_of_swap? hqueues other).trans hother

/-! ## Ticks -/

/-- The board as the monitor finds it in a tick: where tabs follow sprites, they are tracked at the
positions that the lanes have moved these to. -/
def watched (stage : Stage) (dt : Float32) : Board :=
  if stage.board.monitor.followSprites then
    stage.board.follow (stage.performance.tick dt).1.cast.position?
  else stage.board

/-- On the board, a tick is a pass over what the monitor finds. -/
theorem board_tick (stage : Stage) (dt : Float32) :
    (stage.tick dt).1.board = (stage.watched dt).pass.1 := rfl

/-- A tick reports what lanes do, and then what the monitor finds. -/
theorem events_tick (stage : Stage) (dt : Float32) :
    (stage.tick dt).2 =
      (stage.performance.tick dt).2 ++ (stage.watched dt).pass.2.map .collided := rfl

theorem rows_watched (stage : Stage) (dt : Float32) :
    (stage.watched dt).rows = stage.board.rows.map fun row =>
      (row.1, if stage.board.monitor.followSprites then
        row.2.track ((stage.tick dt).1.cast.position? row.2.sprite) else row.2) := by
  rw [watched]
  split
  · rfl
  · simp

theorem watched_frame (stage : Stage) (dt : Float32) :
    (stage.watched dt).nextSlot = stage.board.nextSlot ∧
      (stage.watched dt).queues = stage.board.queues ∧
      (stage.watched dt).monitor = stage.board.monitor := by
  rw [watched]
  split
  · exact ⟨rfl, rfl, rfl⟩
  · exact ⟨rfl, rfl, rfl⟩

/-- A tick neither creates nor loses a queue. -/
theorem contains_tick (stage : Stage) (dt : Float32) (id : ActionId) :
    (stage.tick dt).1.queues.contains id = stage.queues.contains id := by
  rw [queues, board_tick, Board.contains_pass, (stage.watched_frame dt).2.1]
  rfl

/-- The rows after a tick are the rows before, with tracked positions and marks changed. -/
theorem rows_tick (stage : Stage) (dt : Float32) :
    (stage.tick dt).1.board.rows = (stage.watched dt).rows.map fun row =>
      (row.1, if (stage.watched dt).isAwake then { row.2 with touched := false } else row.2) := by
  rw [board_tick, Board.rows_pass]

/-- A tick changes nothing about a tab in its row but the tracked position, which it writes where
tabs follow sprites, and the mark. -/
theorem mem_rows_tick {dt : Float32} {row : Nat × Tab} (hrow : row ∈ (stage.tick dt).1.board.rows) :
    ∃ old tracked touched, (row.1, old) ∈ stage.board.rows ∧ row.2 = { old with tracked, touched } ∧
      (stage.board.monitor.followSprites = true →
        tracked = (stage.tick dt).1.cast.position? old.sprite) := by
  rw [rows_tick, List.mem_map] at hrow
  obtain ⟨⟨slot, found⟩, hfound, rfl⟩ := hrow
  rw [rows_watched, List.mem_map] at hfound
  obtain ⟨⟨_, old⟩, hold, heq⟩ := hfound
  obtain ⟨rfl, rfl⟩ := Prod.mk.inj heq
  have hwatched : ∃ tracked touched,
      (if stage.board.monitor.followSprites then
        old.track ((stage.tick dt).1.cast.position? old.sprite) else old) =
          { old with tracked, touched } ∧
      (stage.board.monitor.followSprites = true →
        tracked = (stage.tick dt).1.cast.position? old.sprite) := by
    split
    · exact ⟨_, _, track_eq old _, fun _ => rfl⟩
    · next hfollow => exact ⟨_, _, rfl, fun h => absurd h hfollow⟩
  obtain ⟨tracked, touched, hwritten, htracked⟩ := hwatched
  dsimp only
  rw [hwritten]
  split
  · exact ⟨old, tracked, false, hold, rfl, htracked⟩
  · exact ⟨old, tracked, touched, hold, rfl, htracked⟩

/-- The monitor finds the tabs in order. -/
theorem OrderlyTabs.watched (h : stage.OrderlyTabs) (dt : Float32) :
    OrderlyTabs { (stage.tick dt).1 with board := stage.watched dt } := by
  refine h.map_rows (f := fun _ tab => if stage.board.monitor.followSprites then
    tab.track ((stage.tick dt).1.cast.position? tab.sprite) else tab) ?_ rfl
    (stage.watched_frame dt).1 (stage.rows_watched dt) ?_
  · intro _ tab
    split
    · exact track_keeps tab _
    · exact ⟨rfl, rfl, rfl⟩
  · intro id hid
    rwa [queues, (stage.watched_frame dt).2.1]

theorem OrderlyTabs.tick (h : stage.OrderlyTabs) (dt : Float32) :
    (stage.tick dt).1.OrderlyTabs := by
  refine (h.watched dt).map_rows (f := fun _ tab => if (stage.watched dt).isAwake then
    { tab with touched := false } else tab) ?_ rfl ?_ (stage.rows_tick dt) ?_
  · intro _ tab
    split
    · exact ⟨rfl, rfl, rfl⟩
    · exact ⟨rfl, rfl, rfl⟩
  · rw [board_tick, Board.nextSlot_pass]
  · intro id hid
    rwa [queues, board_tick, Board.contains_pass]

/-- On every reachable stage the tabs are in order. -/
theorem orderlyTabs_after (settings : Settings) (calls : List Call) :
    (after settings calls).OrderlyTabs := by
  refine after_induction (P := OrderlyTabs) orderlyTabs_bare ?_ ?_ ?_ settings calls
  · exact fun _ _ _ hedit h => h.edit hedit
  · exact fun _ _ h => h.of_rows_eq rfl rfl rfl fun _ hid => hid
  · exact fun _ dt h => h.tick dt

/-! ## The order of creation -/

/-- The tabs on the board, in the order in which they were created. -/
def tabsInOrder (stage : Stage) : List Tab := stage.index.ids.filterMap stage.tab?

/-- No slot is bound twice. -/
theorem OrderlyTabs.binding_inj (h : stage.OrderlyTabs) {a b : ActionId × TabBinding}
    (ha : a ∈ stage.index.bindings) (hb : b ∈ stage.index.bindings)
    (hslot : a.2.slot = b.2.slot) : a = b := by
  have hnodup : (stage.index.bindings.reverse.map (·.2.slot)).Nodup := h.slots ▸ List.nodup_range
  exact List.inj_on_of_nodup_map hnodup (List.mem_reverse.mpr ha) (List.mem_reverse.mpr hb) hslot

/-- The tab of an id is the one in a row that has this id. -/
theorem OrderlyTabs.tab?_eq_some_iff (h : stage.OrderlyTabs) {id : ActionId} {tab : Tab} :
    stage.tab? id = some tab ↔ ∃ slot, (slot, tab) ∈ stage.board.rows ∧ tab.id = id := by
  simp only [tab?, TabIndex.slotOf?, TabIndex.get?, Board.tab?, Option.bind_eq_bind,
    Option.bind_eq_some_iff, Option.map_eq_some_iff]
  constructor
  · rintro ⟨slot, ⟨binding, hbinding, rfl⟩, htab⟩
    have hrow := mem_of_lookup_eq_some htab
    refine ⟨binding.slot, hrow, ?_⟩
    exact congrArg (·.1) (h.binding_inj (h.bound _ hrow).1 (mem_of_lookup_eq_some hbinding) rfl)
  · rintro ⟨slot, hrow, rfl⟩
    exact ⟨slot, ⟨_, lookup_eq_some_of_mem h.ids_nodup (h.bound _ hrow).1, rfl⟩,
      lookup_eq_some_of_mem h.rows_nodup hrow⟩

/-- The tabs by creation are the ones in the rows. -/
theorem OrderlyTabs.mem_tabsInOrder (h : stage.OrderlyTabs) {tab : Tab} :
    tab ∈ stage.tabsInOrder ↔ tab ∈ stage.board.tabs := by
  simp only [tabsInOrder, List.mem_filterMap, h.tab?_eq_some_iff, Board.tabs, List.mem_map]
  constructor
  · rintro ⟨id, -, slot, hrow, -⟩
    exact ⟨(slot, tab), hrow, rfl⟩
  · rintro ⟨⟨slot, _⟩, hrow, rfl⟩
    refine ⟨_, ?_, slot, hrow, rfl⟩
    rw [TabIndex.ids, List.mem_map]
    exact ⟨_, List.mem_reverse.mpr (h.bound _ hrow).1, rfl⟩

/-- Tabs by creation are sorted by their place among all tabs. -/
theorem OrderlyTabs.pairwise_tabsInOrder (h : stage.OrderlyTabs) :
    stage.tabsInOrder.Pairwise (·.order < ·.order) := by
  have hslots : stage.index.bindings.reverse.Pairwise (·.2.slot < ·.2.slot) := by
    rw [← List.pairwise_map (f := fun entry : ActionId × TabBinding => entry.2.slot), h.slots]
    exact List.pairwise_lt_range
  -- The place of a tab among all tabs is the slot that its id was bound to.
  have horder {entry : ActionId × TabBinding} (hentry : entry ∈ stage.index.bindings.reverse)
      {tab : Tab} (htab : stage.tab? entry.1 = some tab) : tab.order = entry.2.slot := by
    obtain ⟨slot, hrow, hid⟩ := h.tab?_eq_some_iff.mp htab
    obtain ⟨hbound, hslot⟩ := h.bound _ hrow
    have hget := lookup_eq_some_of_mem h.ids_nodup (List.mem_reverse.mp hentry)
    have hsame := lookup_eq_some_of_mem h.ids_nodup hbound
    rw [hid, hget] at hsame
    rw [hslot, Option.some.inj hsame]
  rw [tabsInOrder, TabIndex.ids, List.pairwise_filterMap, List.pairwise_map]
  refine hslots.imp_of_mem fun ha hb hlt a hatab b hbtab => ?_
  rwa [horder ha hatab, horder hb hbtab]

/-- The tabs by creation are the tabs in the rows. -/
theorem OrderlyTabs.perm_tabsInOrder (h : stage.OrderlyTabs) :
    stage.board.tabs.Perm stage.tabsInOrder := by
  have hrows : (stage.board.tabs.map (·.order)).Nodup := by
    have heq : stage.board.tabs.map (·.order) = stage.board.rows.map (·.1) := by
      rw [Board.tabs, List.map_map]
      exact List.map_congr_left fun row hrow => (h.bound row hrow).2
    exact heq ▸ h.rows_nodup
  have hnodup : stage.tabsInOrder.Nodup :=
    List.Nodup.of_map (·.order) (List.pairwise_map.mpr (h.pairwise_tabsInOrder.imp Nat.ne_of_lt))
  exact (List.perm_ext_iff_of_nodup hrows.of_map hnodup).mpr fun _ => h.mem_tabsInOrder.symm

/-- The monitor visits the tabs with a tracked position by creation. -/
theorem OrderlyTabs.entries_eq (h : stage.OrderlyTabs) :
    stage.board.entries = stage.tabsInOrder.filterMap Tab.entry? := by
  have hsorted : stage.board.entries.Pairwise
      fun a b => decide (a.tab.order ≤ b.tab.order) = true := by
    refine List.pairwise_mergeSort (fun a b c hab hbc => ?_) (fun a b => ?_) _
    · simp only [decide_eq_true_eq] at *
      omega
    · simp only [Bool.or_eq_true, decide_eq_true_eq]
      omega
  have hstrict : (stage.tabsInOrder.filterMap Tab.entry?).Pairwise
      (·.tab.order < ·.tab.order) := by
    rw [List.pairwise_filterMap]
    refine h.pairwise_tabsInOrder.imp fun hlt a ha b hb => ?_
    rwa [tab_of_entry ha, tab_of_entry hb]
  have hperm := (List.mergeSort_perm (stage.board.tabs.filterMap Tab.entry?)
    fun a b => decide (a.tab.order ≤ b.tab.order)).trans (h.perm_tabsInOrder.filterMap Tab.entry?)
  refine hperm.eq_of_pairwise ?_ hsorted (hstrict.imp fun hlt => by simpa using hlt.le)
  -- Entries of one place among all tabs are one entry, since the places strictly grow.
  intro a b ha hb hab hba
  have hnodup : ((stage.tabsInOrder.filterMap Tab.entry?).map (·.tab.order)).Nodup :=
    List.pairwise_map.mpr (hstrict.imp Nat.ne_of_lt)
  simp only [decide_eq_true_eq] at hab hba
  exact List.inj_on_of_nodup_map hnodup (hperm.subset ha) hb (by omega)

end Stage

end SpriteStage
