import SpriteStage.Text.Blank
import SpriteStage.Text.Cut
import SpriteStage.Text.DecimalDigit
import Mathlib.Data.List.TakeWhile

/-!
# Texts without blanks and in parts

What is left of a text without the blanks at its ends, and where it is cut. The module states:

* `trimBlanks_eq_nil_iff` and `trimBlanks_eq_self`: when nothing is left, and when everything is;
* `HasBareEnds`, `Padded` and `trimBlanks_of_padded`: of a text with blanks around it, the text is
  left;
* `Text.cutAt?_eq`: a text is cut at the first separator, if it has one;
* `Text.lines_join` and `Text.lines_intercalate`: the lines of texts that line feeds end or
  separate.
-/

namespace SpriteStage

/-- What is left of a text without blanks at its ends does not start with one. -/
theorem isBlank_of_trimBlanks_eq_cons {text rest : List Char} {c : Char}
    (h : trimBlanks text = c :: rest) : isBlank c = false := by
  have hinit : trimBlanks text <+: text.dropWhile isBlank := by
    rw [trimBlanks, ← List.reverse_suffix, List.reverse_reverse]
    exact List.dropWhile_suffix _
  obtain ⟨blanks, hblanks⟩ := hinit
  have hhead := List.head?_dropWhile_not isBlank text
  rwa [← hblanks, h] at hhead

/-- A text has nothing left without blanks at its ends if it has nothing but blanks. -/
theorem trimBlanks_eq_nil_iff {text : List Char} :
    trimBlanks text = [] ↔ ∀ c ∈ text, isBlank c = true := by
  rw [trimBlanks, List.reverse_eq_nil_iff, List.dropWhile_eq_nil_iff]
  simp only [List.mem_reverse]
  refine ⟨fun h c hc => ?_, fun h c hc => h c (List.dropWhile_suffix isBlank |>.subset hc)⟩
  have hnil : text.dropWhile isBlank = [] := by
    cases hrest : text.dropWhile isBlank with
    | nil => rfl
    | cons d rest =>
      have hhead := List.head?_dropWhile_not isBlank text
      rw [hrest] at hhead h
      exact absurd (h d (.head _)) (Bool.eq_false_iff.mp hhead)
  exact List.dropWhile_eq_nil_iff.mp hnil c hc

/-- Digits are no blanks. -/
theorem isBlank_of_isDecimalDigit {c : Char} (h : isDecimalDigit c = true) : isBlank c = false := by
  obtain ⟨digits, hdigits, low, high⟩ := CharTable.contains_eq_true_iff.mp h
  -- No range of the one table meets a range of the other.
  have hapart : ∀ blanks ∈ blankTable, ∀ digits ∈ decimalDigitTable,
      blanks.2 < digits.1 ∨ digits.2 < blanks.1 := by decide
  rw [isBlank, Bool.eq_false_iff, ne_eq, CharTable.contains_eq_true_iff]
  rintro ⟨blanks, hblanks, hfrom, hto⟩
  have := hapart blanks hblanks digits hdigits
  omega

/-! ## Texts with blanks around them -/

/-- A text neither starts nor ends with a blank. -/
structure HasBareEnds (text : List Char) : Prop where
  head : ∀ c ∈ text.head?, isBlank c = false
  last : ∀ c ∈ text.getLast?, isBlank c = false

/-- The second text is the first one with some blanks before it and some behind it. -/
def Padded (text padded : List Char) : Prop :=
  ∃ before after, (∀ c ∈ before, isBlank c = true) ∧ (∀ c ∈ after, isBlank c = true) ∧
    padded = before ++ text ++ after

/-- A text without blanks has none at its ends. -/
theorem HasBareEnds.of_forall {text : List Char} (h : ∀ c ∈ text, isBlank c = false) :
    HasBareEnds text :=
  ⟨fun c hc => h c (List.mem_of_head? hc), fun c hc => h c (List.mem_of_getLast? hc)⟩

/-- What stands between two texts has no part in the ends. -/
theorem HasBareEnds.between {first last : List Char} (hfirst : HasBareEnds first)
    (hlast : HasBareEnds last) (hne : first ≠ []) (hne' : last ≠ []) (middle : List Char) :
    HasBareEnds (first ++ middle ++ last) where
  head := by
    obtain ⟨c, rest, rfl⟩ := List.exists_cons_of_ne_nil hne
    exact hfirst.head
  last := by
    rw [List.getLast?_append, List.getLast?_eq_some_getLast hne', Option.some_or,
      ← List.getLast?_eq_some_getLast hne']
    exact hlast.last

/-- What is left of a text with blanks around it is the text. -/
theorem trimBlanks_of_padded {text padded : List Char} (h : Padded text padded)
    (hbare : HasBareEnds text) : trimBlanks padded = text := by
  obtain ⟨before, after, hbefore, hafter, rfl⟩ := h
  have hkept {text : List Char} (hhead : ∀ c ∈ text.head?, isBlank c = false) :
      text.dropWhile isBlank = text := by
    cases text with
    | nil => rfl
    | cons c rest => exact List.dropWhile_cons_of_neg (Bool.eq_false_iff.mp (hhead c rfl))
  cases text with
  | nil =>
    refine trimBlanks_eq_nil_iff.mpr fun c hc => ?_
    rw [List.append_nil] at hc
    exact (List.mem_append.mp hc).elim (hbefore c) (hafter c)
  | cons c rest =>
    have hfront : (before ++ (c :: rest ++ after)).dropWhile isBlank = c :: rest ++ after := by
      rw [List.dropWhile_append_of_pos hbefore]
      exact hkept hbare.head
    have hback :
        (after.reverse ++ (c :: rest).reverse).dropWhile isBlank = (c :: rest).reverse := by
      rw [List.dropWhile_append_of_pos fun c hc => hafter c (List.mem_reverse.mp hc)]
      refine hkept ?_
      rw [List.head?_reverse]
      exact hbare.last
    rw [trimBlanks, List.append_assoc, hfront, List.reverse_append, hback, List.reverse_reverse]

/-- Without blanks, a text stays as it is. -/
theorem trimBlanks_eq_self {text : List Char} (h : ∀ c ∈ text, isBlank c = false) :
    trimBlanks text = text :=
  trimBlanks_of_padded ⟨[], [], nofun, nofun, (List.append_nil text).symm⟩ (.of_forall h)

/-- Any text is what is left of it with blanks around that. -/
theorem padded_trimBlanks (text : List Char) : Padded (trimBlanks text) text := by
  let rest := text.dropWhile isBlank
  refine ⟨text.takeWhile isBlank, (rest.reverse.takeWhile isBlank).reverse,
    fun c hc => List.mem_takeWhile_imp hc,
    fun c hc => List.mem_takeWhile_imp (List.mem_reverse.mp hc), ?_⟩
  have hrest : trimBlanks text ++ (rest.reverse.takeWhile isBlank).reverse = rest := by
    rw [trimBlanks, ← List.reverse_append, List.takeWhile_append_dropWhile, List.reverse_reverse]
  rw [List.append_assoc, hrest, List.takeWhile_append_dropWhile]

theorem hasBareEnds_trimBlanks (text : List Char) : HasBareEnds (trimBlanks text) where
  head := by
    intro c hc
    obtain ⟨rest, hrest⟩ := List.head?_eq_some_iff.mp hc
    exact isBlank_of_trimBlanks_eq_cons hrest
  last := by
    intro c hc
    rw [trimBlanks, List.getLast?_reverse] at hc
    have hhead := List.head?_dropWhile_not isBlank (text.dropWhile isBlank).reverse
    rw [hc] at hhead
    exact hhead

/-! ## Cutting -/

/-- A text is cut at the first separator, if there is one. -/
theorem Text.cutAt?_eq (c : Char) (text : List Char) :
    cutAt? (· = c) text =
      if c ∈ text then some (text.takeWhile (· ≠ c), (text.dropWhile (· ≠ c)).tail) else none := by
  have hkept : (fun x => !decide (x = c)) = fun x => decide (x ≠ c) := by
    funext x
    exact (decide_not).symm
  rw [cutAt?, hkept]
  split
  · next hrest =>
    have hnone : c ∉ text := fun hmem => by
      simpa using List.dropWhile_eq_nil_iff.mp hrest c hmem
    exact (if_neg hnone).symm
  · next d rest hrest =>
    have hsome : c ∈ text := by
      by_contra hnone
      have hnil : text.dropWhile (fun x => decide (x ≠ c)) = [] :=
        List.dropWhile_eq_nil_iff.mpr fun x hx => decide_eq_true fun heq => hnone (heq ▸ hx)
      rw [hnil] at hrest
      cases hrest
    rw [if_pos hsome, hrest, List.tail_cons]

/-! ## Lines -/

/-- Texts that line feeds end are told by their lines, with an empty line after them. -/
theorem Text.lines_join (texts : List String) :
    lines (String.join (texts.map (· ++ "\n"))).toList =
      texts.flatMap (lines ·.toList) ++ [[]] := by
  induction texts with
  | nil => rfl
  | cons text texts ih =>
    have htext : (String.join ((text :: texts).map (· ++ "\n"))).toList =
        text.toList ++ '\n' :: (String.join (texts.map (· ++ "\n"))).toList := by
      simp
    rw [htext, lines_append_lineFeed, ih, List.flatMap_cons, List.append_assoc]

/-- Texts that line feeds separate are told by their lines. -/
theorem Text.lines_intercalate {texts : List String} (h : texts ≠ []) :
    lines ("\n".intercalate texts).toList = texts.flatMap (lines ·.toList) := by
  induction texts with
  | nil => exact absurd rfl h
  | cons text texts ih =>
    cases texts with
    | nil => simp
    | cons next texts =>
      have htext : ("\n".intercalate (text :: next :: texts)).toList =
          text.toList ++ '\n' :: ("\n".intercalate (next :: texts)).toList := by
        simp [String.intercalate_cons_cons]
      rw [htext, lines_append_lineFeed, ih (List.cons_ne_nil _ _)]
      rfl

/-- Texts without line feeds are lines themselves. -/
theorem Text.flatMap_lines {texts : List String} (h : ∀ text ∈ texts, '\n' ∉ text.toList) :
    texts.flatMap (lines ·.toList) = texts.map String.toList := by
  rw [List.map_eq_flatMap, List.flatMap_def, List.flatMap_def,
    List.map_congr_left fun text htext => lines_eq_singleton (h text htext)]

/-- Texts without line feeds that stand one after another among others are lines that do. -/
theorem Text.map_toList_infix_flatMap_lines {texts all : List String} (hpart : texts <:+: all)
    (h : ∀ text ∈ texts, '\n' ∉ text.toList) :
    texts.map String.toList <:+: all.flatMap (lines ·.toList) := by
  obtain ⟨above, below, rfl⟩ := hpart
  exact ⟨above.flatMap (lines ·.toList), below.flatMap (lines ·.toList), by
    rw [List.flatMap_append, List.flatMap_append, flatMap_lines h]⟩

end SpriteStage
