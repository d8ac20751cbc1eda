import SpriteStage.Box
import SpriteStage.Event
import SpriteStage.Queues

/-!
# The board

The half of a stage that decides whose queues are exchanged: the tabs with their tracked positions,
the queues, and the monitor that watches both.

A tab keeps the slot it was put into, and no slot is used twice. The tabs stand in rows, and the
monitor visits them row by row: a new tab gets a row of its own at the end, and into the row of a
tab that is taken away moves the tab of the last row.

A tab is *touched* when it is new, or when its position was written, since the last look of the
monitor. `write` touches it in any case, `track` only if the position changes.
-/

namespace SpriteStage

/-- A tab on the board. -/
structure Tab where
  /-- The key of its queue. -/
  id : ActionId
  /-- The sprite that it drives. -/
  sprite : SpriteId
  /-- What it is called. -/
  label : String
  /-- Its place among all tabs. -/
  order : Nat
  /-- The position that is tested for overlaps, if there is one. -/
  tracked : Option Position := none
  /-- The size of its box. -/
  size : Size := .standard
  /-- It changed since the last look. -/
  touched : Bool := true

/-- What the monitor remembers. -/
structure Monitor where
  /-- Tabs are tracked at the positions of their sprites. -/
  followSprites : Bool := false
  /-- The revision of the queues at its last look, or after the exchanges that this led to. -/
  seenRevision : Option Nat := none
  /-- How often it evaluated the board. -/
  evaluations : Nat := 0

/-- The watched half of a stage. -/
structure Board where
  /-- The tabs with their slots, row by row. -/
  rows : List (Nat × Tab) := []
  /-- The slot of the next tab. -/
  nextSlot : Nat := 0
  /-- The motion queues. -/
  queues : Queues := {}
  /-- The monitor. -/
  monitor : Monitor := {}

/-- Write the tracked position of a tab. -/
def Tab.write (tab : Tab) (position : Option Position) : Tab :=
  { tab with tracked := position, touched := true }

/-- Write the tracked position of a tab, if it differs from what is there. -/
def Tab.track (tab : Tab) (position : Option Position) : Tab :=
  if tab.tracked = position then tab else tab.write position

namespace Board

/-- The tab in a slot. -/
def tab? (board : Board) (slot : Nat) : Option Tab := board.rows.lookup slot

/-- The tabs on the board, row by row. -/
def tabs (board : Board) : List Tab := board.rows.map (·.2)

/-- Put a tab into the next slot. -/
def place (board : Board) (tab : Tab) : Board :=
  { board with rows := board.rows ++ [(board.nextSlot, tab)], nextSlot := board.nextSlot + 1 }

@[simp]
theorem rows_place (board : Board) (tab : Tab) :
    (board.place tab).rows = board.rows ++ [(board.nextSlot, tab)] := by
  rfl

@[simp]
theorem nextSlot_place (board : Board) (tab : Tab) :
    (board.place tab).nextSlot = board.nextSlot + 1 := by
  rfl

/-- Change all tabs. -/
def mapTabs (board : Board) (f : Tab → Tab) : Board :=
  { board with rows := board.rows.map fun (slot, tab) => (slot, f tab) }

/-- Change the tab in a slot. -/
def modify (board : Board) (slot : Nat) (f : Tab → Tab) : Board :=
  { board with rows := board.rows.map fun (s, tab) => (s, if s = slot then f tab else tab) }

/-- A change of one tab keeps all tabs in their slots. -/
@[simp]
theorem map_rows_modify (board : Board) (slot : Nat) (f : Tab → Tab) :
    (board.modify slot f).rows.map (·.1) = board.rows.map (·.1) := by
  simp [modify]

/-- Change the tab in a slot, if there is one. -/
def modify? (board : Board) (slot : Nat) (f : Tab → Tab) : Option Board :=
  (board.tab? slot).map fun _ => board.modify slot f

/-- Take the tab out of a slot, if there is one. The last row fills the gap. -/
def remove? (board : Board) (slot : Nat) : Option Board := do
  let _ ← board.tab? slot
  let last ← board.rows.getLast?
  return { board with
    rows := board.rows.dropLast.map fun row => if row.1 = slot then last else row }

/-- Track every tab at the position of its sprite. -/
def follow (board : Board) (position? : SpriteId → Option Position) : Board :=
  board.mapTabs fun tab => tab.track (position? tab.sprite)

end Board

end SpriteStage
