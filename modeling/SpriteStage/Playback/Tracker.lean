import Std.Data.ExtTreeMap

/-!
# Running playbacks

A playback is over when all its lanes are. The tracker hands out playback ids and counts for each
running playback the lanes that are left; a playback without lanes is over at once.
-/

namespace SpriteStage

/-- The number of a playback, counted from 0. -/
structure PlaybackId where
  /-- The number itself. -/
  number : Nat
  deriving DecidableEq, Repr

namespace PlaybackId

instance : ToString PlaybackId := ⟨fun id => "playback#" ++ toString id.number⟩

instance : Ord PlaybackId := ⟨compareOn number⟩

instance : Std.TransOrd PlaybackId := inferInstanceAs (Std.TransCmp (compareOn number))

instance : Std.LawfulEqOrd PlaybackId where
  eq_of_compare {a b} h := by
    cases a
    cases b
    exact congrArg mk (Std.LawfulEqOrd.eq_of_compare h)

end PlaybackId

/-- The running playbacks. -/
structure Tracker where
  /-- The lanes that each running playback has left. -/
  remaining : Std.ExtTreeMap PlaybackId Nat := ∅
  /-- The number that the next playback gets. -/
  nextNumber : Nat := 0

namespace Tracker

/-- Open a playback with a number of lanes. -/
def begin (tracker : Tracker) (lanes : Nat) : PlaybackId × Tracker :=
  let id : PlaybackId := ⟨tracker.nextNumber⟩
  (id,
    { remaining := if lanes = 0 then tracker.remaining else tracker.remaining.insert id lanes
      nextNumber := tracker.nextNumber + 1 })

@[simp]
theorem nextNumber_begin (tracker : Tracker) (lanes : Nat) :
    (tracker.begin lanes).2.nextNumber = tracker.nextNumber + 1 := by
  rfl

/-- Count off one lane of a playback, and tell whether it was the last one. -/
def finishLane (tracker : Tracker) (id : PlaybackId) : Bool × Tracker :=
  match tracker.remaining[id]? with
  | none => (false, tracker)
  | some left =>
    if left ≤ 1 then (true, { tracker with remaining := tracker.remaining.erase id })
    else (false, { tracker with remaining := tracker.remaining.insert id (left - 1) })

/-- The playback was opened and has no lane left. -/
def isFinished (tracker : Tracker) (id : PlaybackId) : Bool :=
  id.number < tracker.nextNumber && !tracker.remaining.contains id

/-- The number of running playbacks. -/
def running (tracker : Tracker) : Nat := tracker.remaining.size

/-- No playback is running. -/
def isIdle (tracker : Tracker) : Bool := tracker.remaining.isEmpty

end Tracker

end SpriteStage
