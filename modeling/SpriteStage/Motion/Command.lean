import SpriteStage.Transform

/-!
# Motion commands

A `Command` is one step of a motion script. `Command.apply` says what it does to a transform,
`Command.text` how it is written.
-/

namespace SpriteStage

/-- One step of a motion script. -/
inductive Command where
  /-- Go right by an amount. -/
  | moveRight (amount : Int32)
  /-- Go up by one step. -/
  | moveForward
  /-- Go down by one step. -/
  | moveBackward
  /-- Turn right by a quarter. -/
  | turnRight
  /-- Turn left by a quarter. -/
  | turnLeft
  /-- Turn right by a number of degrees. -/
  | turnBy (degrees : Int32)
  /-- Jump to a position. -/
  | goTo (target : Position)
  /-- Do nothing: what every text outside the grammar means. -/
  | idle
  deriving DecidableEq, Repr

namespace Command

/-- How far `moveForward` and `moveBackward` go. -/
def step : Int32 := 20

/-- The degrees of a quarter turn. -/
def quarterTurn : Int32 := 90

/-- What a command does to a transform. Moves keep the rotation and turns keep the position. -/
def apply : Command → Transform → Transform
  | moveRight n, t => { t with position.x := addClamped t.position.x n }
  | moveForward, t => { t with position.y := subClamped t.position.y step }
  | moveBackward, t => { t with position.y := addClamped t.position.y step }
  | turnRight, t => { t with rotation := addClamped t.rotation quarterTurn }
  | turnLeft, t => { t with rotation := subClamped t.rotation quarterTurn }
  | turnBy n, t => { t with rotation := addClamped t.rotation n }
  | goTo target, t => { t with position := target }
  | idle, t => t

/-- The written form of a command, which is empty for `idle`. -/
def text : Command → String
  | moveRight n => "Move Right " ++ toString n.toInt
  | moveForward => "Move Forward"
  | moveBackward => "Move Backward"
  | turnRight => "Turn Right"
  | turnLeft => "Turn Left"
  | turnBy n => "Turn " ++ toString n.toInt ++ " degrees"
  | goTo target => "Go to X: " ++ toString target.x.toInt ++ ", Y: " ++ toString target.y.toInt
  | idle => ""

end Command

end SpriteStage
