import SpriteStage.Document

/-!
# Documents line by line

The text of a JSON value is told by its lines. The module introduces:

* `Document.lines level before after`: the lines of a value at a level of nesting, with a text
  before it on the first line and a text behind it on the last;
* `Document.bracketed`: lines between two brackets, each bracket on a line of its own.

The main statement is `Document.intercalate_lines`.
-/

namespace SpriteStage.Document

/-- The blanks that a line at a level of nesting begins with. -/
def indent (level : Nat) : String := String.ofList (List.replicate (2 * level) ' ')

/-- Lines between two brackets, or both brackets on one line if there is nothing between them. -/
def bracketed (level : Nat) (opening closing : String) (inner : List String) : List String :=
  if inner.isEmpty then [indent level ++ opening ++ closing]
  else (indent level ++ opening) :: inner ++ [indent level ++ closing]

/-- What stands behind an item or a field: a comma, if another one follows. -/
def comma {α : Type} (following : List α) : String := if following.isEmpty then "" else ","

mutual

/-- The lines of a value at a level of nesting. `before` stands in front of it on its first line and
`after` behind it on its last. -/
def lines (level : Nat) (before after : String) : Document → List String
  | literal token => [indent level ++ before ++ token ++ after]
  | text content => [indent level ++ before ++ quoted content ++ after]
  | list items => bracketed level (before ++ "[") ("]" ++ after) (itemLines (level + 1) items)
  | object fields =>
    bracketed level (before ++ "\x7b") ("\x7d" ++ after) (fieldLines (level + 1) fields)

/-- The lines of the items of a list. -/
def itemLines (level : Nat) : List Document → List String
  | [] => []
  | item :: items => lines level "" (comma items) item ++ itemLines level items

/-- The lines of the fields of an object. -/
def fieldLines (level : Nat) : List (String × Document) → List String
  | [] => []
  | (key, value) :: fields =>
    lines level (quoted key ++ ": ") (comma fields) value ++ fieldLines level fields

end

@[simp]
theorem comma_nil {α : Type} : comma ([] : List α) = "" := rfl

@[simp]
theorem comma_cons {α : Type} (a : α) (following : List α) : comma (a :: following) = "," := rfl

theorem margin_eq (level : Nat) : margin level = "\n" ++ indent level := rfl

theorem bracketed_ne_nil (level : Nat) (opening closing : String) (inner : List String) :
    bracketed level opening closing inner ≠ [] := by
  rw [bracketed]
  split <;> simp

/-- Where there are lines between the brackets, each bracket has a line of its own. -/
theorem bracketed_of_ne_nil {inner : List String} (h : inner ≠ []) (level : Nat)
    (opening closing : String) : bracketed level opening closing inner =
      (indent level ++ opening) :: inner ++ [indent level ++ closing] := by
  simp [bracketed, h]

/-- A value has at least one line. -/
theorem lines_ne_nil (level : Nat) (before after : String) (document : Document) :
    lines level before after document ≠ [] := by
  cases document <;> simp [lines, bracketed_ne_nil]

theorem itemLines_ne_nil {level : Nat} {items : List Document} (h : items ≠ []) :
    itemLines level items ≠ [] := by
  cases items <;> simp_all [itemLines, lines_ne_nil]

theorem fieldLines_ne_nil {level : Nat} {fields : List (String × Document)} (h : fields ≠ []) :
    fieldLines level fields ≠ [] := by
  cases fields <;> simp_all [fieldLines, lines_ne_nil]

/-- Items that stand in lines between two brackets are a block. -/
theorem intercalate_bracketed {level : Nat} {inner items : List String}
    (hempty : inner = [] ↔ items = [])
    (hinner : inner ≠ [] → "\n".intercalate inner =
      indent (level + 1) ++ ("," ++ margin (level + 1)).intercalate items)
    (before after opening closing : String) :
    "\n".intercalate (bracketed level (before ++ opening) (closing ++ after) inner) =
      indent level ++ before ++ block opening closing level items ++ after := by
  by_cases h : inner = []
  · simp [bracketed, block, h, hempty.mp h, String.append_assoc]
  · have hitems : items ≠ [] := mt hempty.mpr h
    simp [bracketed_of_ne_nil h, block, hitems, margin_eq, String.intercalate_cons_of_ne_nil,
      String.intercalate_append_of_ne_nil, h, hinner h, String.append_assoc]

mutual

/-- The text of a value is its lines. -/
theorem intercalate_lines (level : Nat) (before after : String) : (document : Document) →
    "\n".intercalate (lines level before after document) =
      indent level ++ before ++ render level document ++ after
  | literal token => by simp [lines, render]
  | text content => by simp [lines, render]
  | list items => by
    rw [lines, render]
    refine intercalate_bracketed ?_ ?_ before after _ _
    · cases items <;> simp [itemLines, renderItems, lines_ne_nil]
    · exact fun h => intercalate_itemLines (level + 1) items fun hnil => h (hnil ▸ rfl)
  | object fields => by
    rw [lines, render]
    refine intercalate_bracketed ?_ ?_ before after _ _
    · cases fields <;> simp [fieldLines, renderFields, lines_ne_nil]
    · exact fun h => intercalate_fieldLines (level + 1) fields fun hnil => h (hnil ▸ rfl)

theorem intercalate_itemLines (level : Nat) : (items : List Document) → items ≠ [] →
    "\n".intercalate (itemLines level items) =
      indent level ++ ("," ++ margin level).intercalate (renderItems level items)
  | [], h => absurd rfl h
  | [item], _ => by
    simp [itemLines, renderItems, intercalate_lines]
  | item :: next :: items, _ => by
    rw [itemLines, String.intercalate_append_of_ne_nil (lines_ne_nil _ _ _ _)
      (itemLines_ne_nil (List.cons_ne_nil _ _)), intercalate_lines, intercalate_itemLines level
      (next :: items) (List.cons_ne_nil _ _)]
    simp [-String.reduceAppend, renderItems, margin_eq, String.intercalate_cons_cons,
      String.append_assoc]

theorem intercalate_fieldLines (level : Nat) : (fields : List (String × Document)) → fields ≠ [] →
    "\n".intercalate (fieldLines level fields) =
      indent level ++ ("," ++ margin level).intercalate (renderFields level fields)
  | [], h => absurd rfl h
  | [(key, value)], _ => by
    simp [fieldLines, renderFields, intercalate_lines, String.append_assoc]
  | (key, value) :: next :: fields, _ => by
    rw [fieldLines, String.intercalate_append_of_ne_nil (lines_ne_nil _ _ _ _)
      (fieldLines_ne_nil (List.cons_ne_nil _ _)), intercalate_lines, intercalate_fieldLines level
      (next :: fields) (List.cons_ne_nil _ _)]
    simp [-String.reduceAppend, renderFields, margin_eq, String.intercalate_cons_cons,
      String.append_assoc]

end

/-- The text of a whole document is its lines. -/
theorem render_eq_intercalate (document : Document) :
    render 0 document = "\n".intercalate (lines 0 "" "" document) := by
  simp [intercalate_lines, indent]

/-! ## Parts of an object -/

theorem lines_infix_fieldLines (level : Nat) (before after : List (String × Document))
    (key : String) (value : Document) :
    lines level (quoted key ++ ": ") (comma after) value <:+:
      fieldLines level (before ++ (key, value) :: after) := by
  induction before with
  | nil => exact (List.prefix_append _ _).isInfix
  | cons field before ih => exact ih.trans (List.suffix_append _ _).isInfix

/-- The lines of a field stand among those of its object. -/
theorem lines_infix_lines_object (level : Nat) (opening closing : String)
    (before after : List (String × Document)) (key : String) (value : Document) :
    lines (level + 1) (quoted key ++ ": ") (comma after) value <:+:
      lines level opening closing (.object (before ++ (key, value) :: after)) := by
  rw [lines, bracketed_of_ne_nil (fieldLines_ne_nil (List.append_ne_nil_of_right_ne_nil _
    (List.cons_ne_nil _ _)))]
  exact (lines_infix_fieldLines _ _ _ _ _).trans ⟨[_], [_], rfl⟩

end SpriteStage.Document
