import SpriteStage.CommandLine.Session
import SpriteStage.Proofs.Document
import SpriteStage.Proofs.Motion.WrittenForm
import SpriteStage.Proofs.Text

/-!
# What sessions print

A stage is printed line by line, in sentences or in JSON. The module introduces:

* `Sprite.printed json`: the lines that tell where a sprite stands;
* `printedSprites json`: the lines that tell it of all sprites, one after another.

The main statements are `Stage.printedSprites_infix_shown` and `Stage.printed_infix_shown`.
-/

namespace SpriteStage

/-- The lines that tell where a sprite stands: a sentence, or the fields of an object in JSON. -/
def Sprite.printed (json : Bool) (sprite : Sprite) : List String :=
  let number := toString sprite.id.number
  let kind := sprite.kind.name
  let x := toString sprite.transform.position.x.toInt
  let y := toString sprite.transform.position.y.toInt
  let rotation := toString sprite.transform.rotation.toInt
  if json then
    ["      \"id\": " ++ number ++ ",",
      "      \"kind\": \"" ++ kind ++ "\",",
      "      \"position\": \x7b",
      "        \"x\": " ++ x ++ ",",
      "        \"y\": " ++ y,
      "      \x7d,",
      "      \"rotation\": " ++ rotation]
  else [kind ++ " sprite #" ++ number
    ++ " at (" ++ x ++ ", " ++ y ++ ") rotated " ++ rotation ++ "°"]

/-- The objects of a list of sprites in JSON, with a comma behind each but the last. -/
def printedItems : List Sprite → List String
  | [] => []
  | sprite :: sprites =>
    "    \x7b" :: sprite.printed true ++
      (if sprites.isEmpty then "    \x7d" else "    \x7d,") :: printedItems sprites

/-- The lines that tell where sprites stand: a sentence for each, or a field of the document. -/
def printedSprites (json : Bool) (sprites : List Sprite) : List String :=
  if json then
    if sprites.isEmpty then ["  \"sprites\": [],"]
    else "  \"sprites\": [" :: printedItems sprites ++ ["  ],"]
  else sprites.flatMap (Sprite.printed false)

/-! ## Lines about sprites -/

theorem Sprite.lineFeed_notMem_printed {json : Bool} {sprite : Sprite} :
    ∀ line ∈ sprite.printed json, '\n' ∉ line.toList := by
  have hkind : '\n' ∉ sprite.kind.name.toList := by cases sprite.kind <;> decide
  have hint (k : Int) : '\n' ∉ k.repr.toList := Motion.not_mem_numeral (by decide) (by decide) k
  have hnat (n : Nat) : '\n' ∉ Nat.toDigits 10 n := Motion.numeral_natCast n ▸ hint n
  cases json <;> simp [Sprite.printed, hkind, hint, hnat]

theorem lineFeed_notMem_printedItems {sprites : List Sprite} :
    ∀ line ∈ printedItems sprites, '\n' ∉ line.toList := by
  induction sprites with
  | nil => exact List.forall_mem_nil _
  | cons sprite sprites ih =>
    rw [printedItems, List.forall_mem_append, List.forall_mem_cons, List.forall_mem_cons]
    refine ⟨⟨by decide, sprite.lineFeed_notMem_printed⟩, ?_, ih⟩
    split <;> decide

/-- What is printed of sprites is lines, of which none goes on. -/
theorem lineFeed_notMem_printedSprites {json : Bool} {sprites : List Sprite} :
    ∀ line ∈ printedSprites json sprites, '\n' ∉ line.toList := by
  cases json with
  | true =>
    rw [printedSprites, if_pos rfl]
    split
    · decide
    · rw [List.forall_mem_append, List.forall_mem_cons]
      exact ⟨⟨by decide, lineFeed_notMem_printedItems⟩, by decide⟩
  | false =>
    intro line hline
    obtain ⟨sprite, -, hline⟩ := List.mem_flatMap.mp hline
    exact sprite.lineFeed_notMem_printed line hline

theorem Sprite.printed_infix_printedItems {sprite : Sprite} {sprites : List Sprite}
    (h : sprite ∈ sprites) : sprite.printed true <:+: printedItems sprites := by
  induction sprites with
  | nil => cases h
  | cons first sprites ih =>
    rcases List.mem_cons.mp h with rfl | h
    · exact ⟨["    \x7b"], _, rfl⟩
    · refine (ih h).trans ?_
      rw [printedItems]
      exact (List.suffix_append_of_suffix (List.suffix_cons _ _)).isInfix

/-- What is printed of each sprite stands in what is printed of all of them. -/
theorem Sprite.printed_infix_printedSprites {sprite : Sprite} {sprites : List Sprite}
    (h : sprite ∈ sprites) (json : Bool) :
    sprite.printed json <:+: printedSprites json sprites := by
  cases json with
  | true =>
    rw [printedSprites, if_pos rfl, if_neg (by simpa using List.ne_nil_of_mem h)]
    exact (sprite.printed_infix_printedItems h).trans ⟨["  \"sprites\": ["], ["  ],"], rfl⟩
  | false =>
    obtain ⟨before, after, rfl⟩ := List.append_of_mem h
    refine ⟨before.flatMap (Sprite.printed false), after.flatMap (Sprite.printed false), ?_⟩
    simp [printedSprites]

/-! ## Lines of the document -/

open Document in
theorem lines_position (p : Position) :
    lines 3 (quoted "position" ++ ": ") "," (.position p) =
      ["      \"position\": \x7b",
        "        \"x\": " ++ toString p.x.toInt ++ ",",
        "        \"y\": " ++ toString p.y.toInt,
        "      \x7d,"] := by
  rw [Document.position, lines, bracketed_of_ne_nil (fieldLines_ne_nil (List.cons_ne_nil _ _))]
  simp only [fieldLines, word, lines, comma_nil, comma_cons, String.append_empty, List.append_nil,
    List.cons_append, List.nil_append]
  rfl

open Document in
theorem lines_sprite {α : Type} (sprite : Sprite) (following : List α) :
    lines 2 "" (comma following) (.sprite sprite) =
      "    \x7b" :: sprite.printed true ++
        [if following.isEmpty then "    \x7d" else "    \x7d,"] := by
  obtain ⟨id, kind, transform⟩ := sprite
  rw [Document.sprite, lines, bracketed_of_ne_nil (fieldLines_ne_nil (List.cons_ne_nil _ _))]
  simp only [fieldLines, natural, word, lines, Nat.reduceAdd, lines_position, comma_nil, comma_cons,
    String.append_empty, List.append_nil, List.cons_append, List.nil_append]
  cases kind <;> cases following <;> rfl

open Document in
theorem itemLines_sprites (sprites : List Sprite) :
    itemLines 2 (sprites.map .sprite) = printedItems sprites := by
  induction sprites with
  | nil => rfl
  | cons sprite sprites ih =>
    rw [List.map_cons, itemLines, lines_sprite, ih, printedItems, List.isEmpty_map]
    simp

/-- The field of a snapshot that holds its sprites. -/
theorem lines_sprites (sprites : List Sprite) :
    Document.lines 1 (Document.quoted "sprites" ++ ": ") "," (.list (sprites.map .sprite)) =
      printedSprites true sprites := by
  rw [Document.lines, Document.bracketed, itemLines_sprites]
  cases sprites <;> rfl

/-! ## Stages -/

theorem Snapshot.printedSprites_infix_text (snapshot : Snapshot) :
    (printedSprites true snapshot.sprites).map String.toList <:+:
      Text.lines snapshot.text.toList := by
  have hsprites := Document.lines_infix_lines_object 0 "" ""
    [("elapsed", .seconds snapshot.elapsed)]
    [("tabs", .list (snapshot.tabs.map .tab)), ("queues", .script snapshot.script)]
    "sprites" (.list (snapshot.sprites.map .sprite))
  rw [Document.comma_cons, Nat.zero_add, lines_sprites] at hsprites
  rw [text, Document.render_eq_intercalate,
    Text.lines_intercalate (Document.lines_ne_nil _ _ _ _)]
  exact Text.map_toList_infix_flatMap_lines hsprites lineFeed_notMem_printedSprites

/-- The lines that tell where the sprites of a stage stand are lines of what is printed of it. -/
theorem Stage.printedSprites_infix_shown (stage : Stage) (json : Bool) :
    (printedSprites json stage.cast.sprites).map String.toList <:+:
      Text.lines (stage.shown json).toList := by
  rw [shown, Text.lines_join]
  refine List.IsInfix.trans ?_ (List.prefix_append _ _).isInfix
  cases json with
  | true =>
    rw [if_pos rfl, List.flatMap_singleton]
    exact stage.snapshot.printedSprites_infix_text
  | false =>
    refine Text.map_toList_infix_flatMap_lines ?_ lineFeed_notMem_printedSprites
    have hsprites : printedSprites false stage.cast.sprites = stage.cast.sprites.map (·.text) := by
      rw [List.map_eq_flatMap]
      rfl
    rw [hsprites]
    exact (List.prefix_append _ _).isInfix

/-- Where a sprite of a stage stands is told in lines of what is printed of the stage. -/
theorem Stage.printed_infix_shown {stage : Stage} {sprite : Sprite}
    (h : sprite ∈ stage.cast.sprites) (json : Bool) :
    (sprite.printed json).map String.toList <:+: Text.lines (stage.shown json).toList :=
  ((sprite.printed_infix_printedSprites h json).map _).trans
    (stage.printedSprites_infix_shown json)

end SpriteStage
