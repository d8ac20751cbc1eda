import SpriteStage.Board.Basic

/-!
# Passes over the board

The monitor looks at the board once in every tick, and evaluates it only if something changed: a
tab was touched, or the revision of the queues is another than the one it has seen. It then
reports every ordered pair of tabs whose boxes overlap. Each pair comes twice, once in either
direction, and the second report is marked as reversed. Queues are exchanged on the reports that
are not, after the whole pass, and the monitor takes note of the revision this leads to: its own
exchanges never wake it.

* `collisions` lists the reports for tabs in order.
* `Board.detect` is one look of the monitor.
* `Board.react` answers one report.
* `Board.pass` does both, as a tick does.
-/

namespace SpriteStage

/-- A tab that can collide, with the box that it occupies. -/
structure Entry where
  /-- The tab. -/
  tab : Tab
  /-- Its box at its tracked position. -/
  box : Box

/-- The entry of a tab that has a tracked position. -/
def Tab.entry? (tab : Tab) : Option Entry :=
  tab.tracked.map fun position => ⟨tab, .spanned position tab.size⟩

/-- Two entries are reported if they overlap. Tabs of one id are never tested against each other,
nor tabs of one sprite when they follow it. -/
def Entry.meets (follow : Bool) (a b : Entry) : Bool :=
  a.tab.id ≠ b.tab.id && !(follow && a.tab.sprite = b.tab.sprite) && a.box.overlaps b.box

/-- The reports on entries: row by row, each entry against all in order. -/
def collisions (follow : Bool) (entries : List Entry) : List Collision :=
  entries.zipIdx.flatMap fun (a, i) =>
    entries.zipIdx.filterMap fun (b, j) =>
      if a.meets follow b then some ⟨a.tab.id, b.tab.id, j < i⟩ else none

namespace Board

/-- Something changed since the last look. -/
def isAwake (board : Board) : Bool :=
  board.monitor.seenRevision ≠ some board.queues.revision || board.tabs.any (·.touched)

/-- The tabs that can collide, by their order; tabs of equal order stay as they stand in rows. -/
def entries (board : Board) : List Entry :=
  (board.tabs.filterMap Tab.entry?).mergeSort fun a b => a.tab.order ≤ b.tab.order

/-- One look at the board. -/
def detect (board : Board) : Board × List Collision :=
  if board.isAwake then
    ({ board.mapTabs ({ · with touched := false }) with
        monitor := { board.monitor with
          seenRevision := some board.queues.revision
          evaluations := board.monitor.evaluations + 1 } },
      collisions board.monitor.followSprites board.entries)
  else (board, [])

/-- The answer to one report. -/
def react (board : Board) (collision : Collision) : Board :=
  if collision.reversed then board
  else
    let queues := (board.queues.swap? collision.first collision.second).getD board.queues
    { board with
      queues, monitor := { board.monitor with seenRevision := some queues.revision } }

/-- One look at the board and the answers to what it shows. -/
def pass (board : Board) : Board × List Collision :=
  let (board, collisions) := board.detect
  (collisions.foldl react board, collisions)

end Board

end SpriteStage
