/-!
# Cutting a text

A text is a list of characters here. `cutAt?` cuts it at the first character of a kind, `lines`
at every line feed.
-/

namespace SpriteStage.Text

/-- The parts of `text` before and after its first character with `p`, if it has one. -/
def cutAt? (p : Char → Bool) (text : List Char) : Option (List Char × List Char) :=
  match text.dropWhile (!p ·) with
  | [] => none
  | _ :: rest => some (text.takeWhile (!p ·), rest)

/-- The lines of `text`, which line feeds separate. -/
def lines : List Char → List (List Char)
  | [] => [[]]
  | c :: text =>
    match lines text with
    | [] => [[c]]
    | line :: rest => if c = '\n' then [] :: line :: rest else (c :: line) :: rest

theorem lines_ne_nil (text : List Char) : lines text ≠ [] := by
  cases text with
  | nil => exact List.cons_ne_nil _ _
  | cons c text =>
    rw [lines]
    split
    · exact List.cons_ne_nil _ _
    · split <;> exact List.cons_ne_nil _ _

/-- A line feed between two texts keeps their lines apart. -/
theorem lines_append_lineFeed (text rest : List Char) :
    lines (text ++ '\n' :: rest) = lines text ++ lines rest := by
  induction text with
  | nil =>
    obtain ⟨first, others, hlines⟩ := List.exists_cons_of_ne_nil (lines_ne_nil rest)
    simp [lines, hlines]
  | cons c text ih =>
    obtain ⟨first, others, hlines⟩ := List.exists_cons_of_ne_nil (lines_ne_nil text)
    by_cases hfeed : c = '\n' <;> simp [lines, ih, hlines, hfeed]

/-- A text without line feeds is one line. -/
theorem lines_eq_singleton {line : List Char} (h : '\n' ∉ line) : lines line = [line] := by
  induction line with
  | nil => rfl
  | cons c line ih =>
    rw [List.mem_cons, not_or] at h
    rw [lines, ih h.2]
    exact if_neg fun heq => h.1 heq.symm

/-- A first character that is no separator stays before the cut. -/
theorem cutAt?_cons_of_neg {p : Char → Bool} {c : Char} (h : p c = false) (text : List Char) :
    cutAt? p (c :: text) = (cutAt? p text).map fun (before, after) => (c :: before, after) := by
  simp only [cutAt?, List.dropWhile_cons, List.takeWhile_cons, h, Bool.not_false, if_true]
  split <;> rfl

/-- Cutting at the first separator undoes joining at it. -/
theorem cutAt?_append {p : Char → Bool} {before after : List Char} {c : Char}
    (hbefore : ∀ x ∈ before, p x = false) (hc : p c = true) :
    cutAt? p (before ++ c :: after) = some (before, after) := by
  induction before with
  | nil => simp [cutAt?, hc]
  | cons x before ih =>
    have hx : p x = false := hbefore x (.head _)
    have ih := ih fun y hy => hbefore y (.tail _ hy)
    simp only [cutAt?] at ih ⊢
    simp only [List.cons_append, List.dropWhile_cons, hx, List.takeWhile_cons, Bool.not_false,
      if_true]
    split at ih <;> simp_all

end SpriteStage.Text
