import SpriteStage.Document
import SpriteStage.Stage.Basic

/-!
# Snapshots

Everything about a stage that can be shown, and its text in JSON, with the queues in the order of
their ids.
-/

namespace SpriteStage

/-- What can be shown of a stage at one moment. -/
structure Snapshot where
  /-- Stage time in seconds. -/
  elapsed : Float32
  /-- The sprites, by number. -/
  sprites : List Sprite
  /-- The tabs, in the order in which they were added. -/
  tabs : List TabView
  /-- All queues. -/
  script : Script

/-- What can be shown of a stage now. -/
def Stage.snapshot (stage : Stage) : Snapshot where
  elapsed := stage.elapsed
  sprites := stage.cast.sprites
  tabs := stage.tabs
  script := stage.queues.script

namespace Document

/-- A shortest decimal: positional with a point if its first digit stands for a power of ten between
the minus sixth and the twelfth, and in scientific notation otherwise. -/
def decimalText (d : Decimal) : String :=
  let digits := Nat.toDigits 10 d.coefficient
  let power := d.exponent + digits.length - 1
  if -6 ≤ power ∧ power ≤ 12 then
    if 0 ≤ d.exponent then d.plain ++ ".0" else d.plain
  else
    let mantissa := match digits with
      | first :: second :: rest => first :: '.' :: second :: rest
      | digits => digits
    let sign := if power < 0 then "e-" else "e+"
    String.ofList mantissa ++ sign ++ toString power.natAbs

open Float.Model in
/-- A number of seconds. What is not finite has no text of its own. -/
def seconds (x : Float32) : Document :=
  literal <| match x.toModel.unpack with
    | .notANumber | .infinity _ => "null"
    | .zero sign => signText sign ++ "0.0"
    | .finite sign mantissa exponent _ =>
      signText sign ++ decimalText ((Cell.of .binary32 mantissa exponent).shortest .even)

/-- A natural number. -/
def natural (n : Nat) : Document := literal (toString n)

/-- A 32-bit integer. -/
def word (n : Int32) : Document := literal (toString n.toInt)

/-- A position. -/
def position (p : Position) : Document := object [("x", word p.x), ("y", word p.y)]

/-- A sprite. -/
def sprite (s : Sprite) : Document :=
  object [("id", natural s.id.number), ("kind", text s.kind.name),
    ("position", position s.transform.position), ("rotation", word s.transform.rotation)]

/-- A tab. -/
def tab (t : TabView) : Document :=
  object [("id", text t.id.text), ("sprite", natural t.sprite.number), ("label", text t.label),
    ("tracked", (t.tracked.map position).getD (literal "null"))]

/-- All queues. -/
def script (s : Script) : Document :=
  object (s.toList.map fun (id, commands) => (id.text, list (commands.map text)))

end Document

/-- The text of a snapshot. -/
def Snapshot.text (s : Snapshot) : String :=
  Document.render 0 (.object [("elapsed", .seconds s.elapsed),
    ("sprites", .list (s.sprites.map .sprite)), ("tabs", .list (s.tabs.map .tab)),
    ("queues", .script s.script)])

end SpriteStage
