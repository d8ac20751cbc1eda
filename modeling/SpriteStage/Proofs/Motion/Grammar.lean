import Mathlib.Data.List.Basic
import Mathlib.Data.List.TakeWhile
import SpriteStage.Motion.Parser

/-!
# The grammar of motion commands

What a text says, told without a scan: a command in one of the numeric forms may stand anywhere in
it, and which one is meant is decided by all the ways in which the text can be taken apart. The
module introduces:

* `Motion.Form` and its three values, the numeric forms; `Form.Occurs` for an occurrence of one in a
  text, and `Form.First` for the numerals of the first occurrence: the one with the least text
  before it and, of those at that place, the longest one;
* `Motion.Denotes`, the integer that a numeral stands for, and `Motion.Says`, the grammar itself;
* `Form.ReadBy`, which says that a function reads a form at the start of a text, and
  `firstMatch?_eq_some_iff`, which turns it into one that finds the first occurrence.

The main statement is `ofText_eq_iff_says`.
-/

namespace SpriteStage

namespace Motion

/-! ## Numerals -/

/-- A run of decimal digits of any script, not an empty one. -/
def IsRun (digits : List Char) : Prop := digits ≠ [] ∧ ∀ c ∈ digits, isDecimalDigit c = true

/-- A run of decimal digits that a minus sign may precede. -/
def IsSignedRun (numeral : List Char) : Prop :=
  ∃ digits, IsRun digits ∧ (numeral = digits ∨ numeral = '-' :: digits)

/-- The integer that a numeral stands for, if all its digits are in ASCII. -/
inductive Denotes : List Char → Int → Prop
  | natural {digits : List Char} (h : ∀ c ∈ digits, c.isDigit = true) :
      Denotes digits (Nat.ofDigitChars 10 digits 0)
  | negative {digits : List Char} (h : ∀ c ∈ digits, c.isDigit = true) :
      Denotes ('-' :: digits) (-Nat.ofDigitChars 10 digits 0)

/-! ## Forms -/

/-- A form in which commands are written: `form n t` says that `t` is written in it with the
numerals `n`. -/
abbrev Form (α : Type) := α → List Char → Prop

/-- `Move Right N`. -/
def moveRightForm : Form (List Char) := fun n t => IsRun n ∧ t = "Move Right ".toList ++ n

/-- `Turn N degrees`. -/
def turnForm : Form (List Char) := fun n t =>
  IsSignedRun n ∧ t = "Turn ".toList ++ n ++ " degrees".toList

/-- `Go to X: N, Y: M`. -/
def goToForm : Form (List Char × List Char) := fun n t =>
  IsSignedRun n.1 ∧ IsSignedRun n.2 ∧ t = "Go to X: ".toList ++ n.1 ++ ", Y: ".toList ++ n.2

namespace Form

variable {α : Type} (form : Form α)

/-- After `before`, `text` goes on with `t`, which is written in the form with the numerals `n`. -/
def Occurs (text before : List Char) (n : α) (t : List Char) : Prop :=
  form n t ∧ ∃ after, text = before ++ t ++ after

/-- The form occurs somewhere in `text`. -/
def Fits (text : List Char) : Prop := ∃ before n t, form.Occurs text before n t

/-- `n` are the numerals of the occurrence with the least text before it and, of the ones there, of
the longest. -/
def First (text : List Char) (n : α) : Prop :=
  ∃ before t, form.Occurs text before n t ∧
    (∀ before' n' t', form.Occurs text before' n' t' → before.length ≤ before'.length) ∧
    ∀ n' t', form.Occurs text before n' t' → t'.length ≤ t.length

end Form

/-! ## The grammar -/

/-- The texts that stand for a command as a whole. -/
def fixedTexts : List (String × Command) :=
  [("Move Forward", .moveForward), ("Move Backward", .moveBackward), ("Turn Right", .turnRight),
    ("Turn Left", .turnLeft)]

/-- What a text says. A form is looked for only where those before it do not fit; if the numerals of
its first occurrence do not stand for words of 32 bits, the text says nothing. -/
inductive Says (text : List Char) : Command → Prop
  | moveRight {numeral : List Char} {n : Int32} (first : moveRightForm.First text numeral)
      (value : Denotes numeral n.toInt) : Says text (.moveRight n)
  | moveRightUnfit {numeral : List Char} (first : moveRightForm.First text numeral)
      (unfit : ∀ n : Int32, ¬ Denotes numeral n.toInt) : Says text .idle
  | fixed {word : String} {command : Command} (move : ¬ moveRightForm.Fits text)
      (whole : text = word.toList) (known : (word, command) ∈ fixedTexts) : Says text command
  | turn {numeral : List Char} {n : Int32} (move : ¬ moveRightForm.Fits text)
      (fixed : ∀ entry ∈ fixedTexts, text ≠ entry.1.toList) (first : turnForm.First text numeral)
      (value : Denotes numeral n.toInt) : Says text (.turnBy n)
  | turnUnfit {numeral : List Char} (move : ¬ moveRightForm.Fits text)
      (fixed : ∀ entry ∈ fixedTexts, text ≠ entry.1.toList) (first : turnForm.First text numeral)
      (unfit : ∀ n : Int32, ¬ Denotes numeral n.toInt) : Says text .idle
  | goTo {x y : List Char} {target : Position} (move : ¬ moveRightForm.Fits text)
      (fixed : ∀ entry ∈ fixedTexts, text ≠ entry.1.toList) (turn : ¬ turnForm.Fits text)
      (first : goToForm.First text (x, y)) (across : Denotes x target.x.toInt)
      (down : Denotes y target.y.toInt) : Says text (.goTo target)
  | goToUnfit {x y : List Char} (move : ¬ moveRightForm.Fits text)
      (fixed : ∀ entry ∈ fixedTexts, text ≠ entry.1.toList) (turn : ¬ turnForm.Fits text)
      (first : goToForm.First text (x, y))
      (unfit : ∀ target : Position,
        ¬ (Denotes x target.x.toInt ∧ Denotes y target.y.toInt)) : Says text .idle
  | nothing (move : ¬ moveRightForm.Fits text)
      (fixed : ∀ entry ∈ fixedTexts, text ≠ entry.1.toList) (turn : ¬ turnForm.Fits text)
      (goTo : ¬ goToForm.Fits text) : Says text .idle

/-! ## The first occurrence -/

namespace Form

variable {α : Type} {form : Form α} {form? : List Char → Option α} {text : List Char} {n : α}
  {c : Char}

/-- `n` are the numerals of the longest occurrence at the start of `text`. -/
def Longest (form : Form α) (text : List Char) (n : α) : Prop :=
  ∃ t, form.Occurs text [] n t ∧ ∀ n' t', form.Occurs text [] n' t' → t'.length ≤ t.length

/-- `form?` reads the form at the start of a text. -/
structure ReadBy (form : Form α) (form? : List Char → Option α) : Prop where
  /-- What is read belongs to the longest occurrence. -/
  longest : ∀ {text n}, form? text = some n → form.Longest text n
  /-- Something is read wherever there is an occurrence. -/
  isSome : ∀ {text n t}, form.Occurs text [] n t → (form? text).isSome = true
  /-- A text is written in the form with one choice of numerals. -/
  inj : ∀ {n n' t}, form n t → form n' t → n = n'

theorem ReadBy.eq_some_iff (h : form.ReadBy form?) :
    form? text = some n ↔ form.Longest text n := by
  refine ⟨h.longest, ?_⟩
  rintro ⟨t, ⟨hform, after, htext⟩, hlongest⟩
  -- Two longest occurrences at one place are the same text.
  obtain ⟨m, hm⟩ := Option.isSome_iff_exists.mp (h.isSome ⟨hform, after, htext⟩)
  obtain ⟨t', ⟨hform', after', htext'⟩, hlongest'⟩ := h.longest hm
  have hlength : t.length = t'.length :=
    Nat.le_antisymm (hlongest' n t ⟨hform, after, htext⟩) (hlongest m t' ⟨hform', after', htext'⟩)
  obtain rfl : t = t' := (List.append_inj (by simpa using htext.symm.trans htext') hlength).1
  obtain rfl : n = m := h.inj hform hform'
  exact hm

theorem ReadBy.eq_none_iff (h : form.ReadBy form?) :
    form? text = none ↔ ∀ n t, ¬ form.Occurs text [] n t := by
  constructor
  · intro hnone n t hoccurs
    simpa [hnone] using h.isSome hoccurs
  · intro hnone
    refine Option.eq_none_iff_forall_ne_some.mpr fun n hn => ?_
    obtain ⟨t, hoccurs, -⟩ := h.longest hn
    exact hnone n t hoccurs

/-- What is written in a form is an occurrence of it. -/
theorem occurs_self {t : List Char} (h : form n t) : form.Occurs t [] n t :=
  ⟨h, [], (List.append_nil t).symm⟩

/-- Occurrences after the first character of a text are those in the rest. -/
theorem occurs_cons_iff {before t : List Char} :
    form.Occurs (c :: text) (c :: before) n t ↔ form.Occurs text before n t := by
  simp [Occurs]

/-- An occurrence that does not start the text comes after its first character. -/
theorem Occurs.exists_eq_cons {before t : List Char} (h : form.Occurs (c :: text) before n t)
    (hstart : ∀ n t, ¬ form.Occurs (c :: text) [] n t) :
    ∃ before', before = c :: before' ∧ form.Occurs text before' n t := by
  cases before with
  | nil => exact absurd h (hstart n t)
  | cons b before' =>
    obtain ⟨hform, after, htext⟩ := h
    simp only [List.cons_append, List.cons.injEq] at htext
    obtain ⟨rfl, htext⟩ := htext
    exact ⟨before', rfl, hform, after, htext⟩

/-- If the form fits at the start, the first occurrence is there. -/
theorem first_iff_longest (hstart : ∃ n t, form.Occurs text [] n t) :
    form.First text n ↔ form.Longest text n := by
  obtain ⟨m, s, hs⟩ := hstart
  constructor
  · rintro ⟨before, t, hoccurs, hleast, hlongest⟩
    obtain rfl : before = [] := List.length_eq_zero_iff.mp (Nat.le_zero.mp (hleast [] m s hs))
    exact ⟨t, hoccurs, hlongest⟩
  · rintro ⟨t, hoccurs, hlongest⟩
    exact ⟨[], t, hoccurs, fun _ _ _ _ => Nat.zero_le _, hlongest⟩

/-- If the form does not fit at the start, the first occurrence is the one in the rest. -/
theorem first_cons_iff (hstart : ∀ n t, ¬ form.Occurs (c :: text) [] n t) :
    form.First (c :: text) n ↔ form.First text n := by
  constructor
  · rintro ⟨_, t, hoccurs, hleast, hlongest⟩
    obtain ⟨before, rfl, hrest⟩ := hoccurs.exists_eq_cons hstart
    refine ⟨before, t, hrest, fun before' n' t' h => ?_, fun n' t' h => ?_⟩
    · exact Nat.le_of_succ_le_succ (hleast (c :: before') n' t' (occurs_cons_iff.mpr h))
    · exact hlongest n' t' (occurs_cons_iff.mpr h)
  · rintro ⟨before, t, hoccurs, hleast, hlongest⟩
    refine ⟨c :: before, t, occurs_cons_iff.mpr hoccurs, fun _ n' t' h => ?_,
      fun n' t' h => hlongest n' t' (occurs_cons_iff.mp h)⟩
    obtain ⟨before', rfl, hrest⟩ := h.exists_eq_cons hstart
    exact Nat.succ_le_succ (hleast before' n' t' hrest)

/-- A form fits in a text if it fits at its start or in the rest. -/
theorem fits_cons_iff :
    form.Fits (c :: text) ↔ (∃ n t, form.Occurs (c :: text) [] n t) ∨ form.Fits text := by
  constructor
  · rintro ⟨before, n, t, hoccurs⟩
    by_cases hstart : ∃ n t, form.Occurs (c :: text) [] n t
    · exact .inl hstart
    · obtain ⟨before, -, hrest⟩ := hoccurs.exists_eq_cons fun n t h => hstart ⟨n, t, h⟩
      exact .inr ⟨before, n, t, hrest⟩
  · rintro (⟨n, t, hoccurs⟩ | ⟨before, n, t, hoccurs⟩)
    · exact ⟨[], n, t, hoccurs⟩
    · exact ⟨c :: before, n, t, occurs_cons_iff.mpr hoccurs⟩

/-- In an empty text there is no place but its start. -/
theorem Occurs.eq_nil {before t : List Char} (h : form.Occurs [] before n t) : before = [] := by
  obtain ⟨-, after, htext⟩ := h
  have hnil : before ++ t = [] := (List.append_eq_nil_iff.mp htext.symm).1
  exact (List.append_eq_nil_iff.mp hnil).1

/-- Trying a form at one place after the other, and reading it at the first place where it fits,
gives the numerals of its first occurrence. -/
theorem firstMatch?_eq_some_iff (h : form.ReadBy form?) :
    firstMatch? form? text = some n ↔ form.First text n := by
  induction text with
  | nil =>
    rw [firstMatch?, h.eq_some_iff]
    constructor
    · exact fun hlongest => (first_iff_longest ⟨n, hlongest.imp fun _ h => h.1⟩).mpr hlongest
    · rintro ⟨before, t, hoccurs, hleast, hlongest⟩
      obtain rfl := hoccurs.eq_nil
      exact ⟨t, hoccurs, hlongest⟩
  | cons c text ih =>
    rw [firstMatch?]
    cases hread : form? (c :: text) with
    | none => rw [first_cons_iff (h.eq_none_iff.mp hread), ih]
    | some m =>
      obtain ⟨t, hoccurs, -⟩ := h.longest hread
      rw [first_iff_longest ⟨m, t, hoccurs⟩, ← h.eq_some_iff, hread]

/-- Nothing is found exactly if the form fits nowhere. -/
theorem firstMatch?_eq_none_iff (h : form.ReadBy form?) :
    firstMatch? form? text = none ↔ ¬ form.Fits text := by
  induction text with
  | nil =>
    rw [firstMatch?, h.eq_none_iff]
    constructor
    · rintro hnone ⟨before, n, t, hoccurs⟩
      obtain rfl := hoccurs.eq_nil
      exact hnone n t hoccurs
    · exact fun hnone n t hoccurs => hnone ⟨[], n, t, hoccurs⟩
  | cons c text ih =>
    rw [firstMatch?, fits_cons_iff]
    cases hread : form? (c :: text) with
    | none =>
      have hstart : ¬ ∃ n t, form.Occurs (c :: text) [] n t :=
        fun ⟨n, t, hoccurs⟩ => h.eq_none_iff.mp hread n t hoccurs
      simp only [hstart, false_or, ih]
    | some m =>
      have hstart := h.longest hread
      simp only [reduceCtorEq, false_iff, not_not]
      obtain ⟨t, hoccurs, -⟩ := hstart
      exact .inl ⟨m, t, hoccurs⟩

end Form

/-! ## Reading numerals -/

section Runs

variable {digits digits' n n' text rest rest' : List Char}

/-- No digit follows. -/
def EndsRun (rest : List Char) : Prop := ∀ c ∈ rest.head?, isDecimalDigit c = false

theorem IsRun.signed (h : IsRun digits) : IsSignedRun digits := ⟨digits, h, .inl rfl⟩

theorem digitRun?_append (h : IsRun digits) (hrest : EndsRun rest) :
    digitRun? (digits ++ rest) = some (digits, rest) := by
  obtain ⟨hne, hdigits⟩ := h
  have hstop : rest.takeWhile isDecimalDigit = [] ∧ rest.dropWhile isDecimalDigit = rest := by
    cases rest with
    | nil => exact ⟨rfl, rfl⟩
    | cons c rest => simp [hrest c rfl]
  rw [digitRun?, List.takeWhile_append_of_pos hdigits, List.dropWhile_append_of_pos hdigits,
    hstop.1, hstop.2, List.append_nil]
  split
  · exact absurd rfl hne
  · rfl

theorem digitRun?_eq_some_iff :
    digitRun? text = some (digits, rest) ↔ IsRun digits ∧ EndsRun rest ∧ text = digits ++ rest := by
  constructor
  · rw [digitRun?]
    split
    · exact nofun
    · next hne =>
      rintro ⟨⟩
      refine ⟨⟨hne, fun c hc => List.mem_takeWhile_imp hc⟩, fun c hc => ?_,
        List.takeWhile_append_dropWhile.symm⟩
      have hstop := List.head?_dropWhile_not isDecimalDigit text
      rw [hc] at hstop
      exact hstop
  · rintro ⟨hrun, hrest, rfl⟩
    exact digitRun?_append hrun hrest

/-- What starts with a run starts with a longest one. -/
theorem isSome_digitRun?_append (h : IsRun digits) (rest : List Char) :
    (digitRun? (digits ++ rest)).isSome = true := by
  rw [digitRun?, List.takeWhile_append_of_pos h.2]
  split
  · next hnil => exact absurd (List.append_eq_nil_iff.mp hnil).1 h.1
  · rfl

/-- No run starts with a minus sign. -/
theorem IsRun.append_ne_minus (h : IsRun digits) : digits ++ rest ≠ '-' :: rest' := by
  intro heq
  cases digits with
  | nil => exact h.1 rfl
  | cons c digits =>
    rw [List.cons_append, List.cons.injEq] at heq
    have hminus : isDecimalDigit '-' = true := heq.1 ▸ h.2 c (.head _)
    exact absurd hminus (by decide)

theorem signedRun?_append (h : IsRun digits) (rest : List Char) :
    signedRun? (digits ++ rest) = digitRun? (digits ++ rest) := by
  rw [signedRun?.eq_def]
  split
  · exact absurd ‹_› h.append_ne_minus
  · rfl

theorem signedRun?_eq_some_iff :
    signedRun? text = some (n, rest) ↔ IsSignedRun n ∧ EndsRun rest ∧ text = n ++ rest := by
  constructor
  · rw [signedRun?.eq_def]
    split
    · intro h
      simp only [Option.map_eq_some_iff, Prod.mk.injEq, Prod.exists, digitRun?_eq_some_iff] at h
      obtain ⟨digits, rest, ⟨hrun, hrest, rfl⟩, rfl, rfl⟩ := h
      exact ⟨⟨digits, hrun, .inr rfl⟩, hrest, rfl⟩
    · intro h
      obtain ⟨hrun, hrest, rfl⟩ := digitRun?_eq_some_iff.mp h
      exact ⟨hrun.signed, hrest, rfl⟩
  · rintro ⟨⟨digits, hrun, rfl | rfl⟩, hrest, rfl⟩
    · rw [signedRun?_append hrun, digitRun?_append hrun hrest]
    · rw [List.cons_append, signedRun?, digitRun?_append hrun hrest]
      rfl

theorem isSome_signedRun?_append (h : IsSignedRun n) (rest : List Char) :
    (signedRun? (n ++ rest)).isSome = true := by
  obtain ⟨digits, hrun, rfl | rfl⟩ := h
  · rw [signedRun?_append hrun]
    exact isSome_digitRun?_append hrun rest
  · rw [List.cons_append, signedRun?, Option.isSome_map]
    exact isSome_digitRun?_append hrun rest

/-- Of two runs at one place, the one that no digit follows is the longer one. -/
theorem IsRun.prefix_of_append_eq (h : IsRun digits') (hrest : EndsRun rest)
    (heq : digits ++ rest = digits' ++ rest') : digits' <+: digits := by
  obtain ⟨more, rfl, hmore⟩ | ⟨more, rfl, -⟩ := List.append_eq_append_iff.mp heq
  · cases more with
    | nil => simp
    | cons c more =>
      -- The second run would go on with a character that is no digit.
      have hdigit : isDecimalDigit c = true := h.2 c (by simp)
      rw [hrest c (by simp [hmore])] at hdigit
      cases hdigit
  · exact List.prefix_append _ _

/-- Of two numerals at one place, the one that no digit follows is the longer one. -/
theorem IsSignedRun.prefix_of_append_eq (h : IsSignedRun n) (h' : IsSignedRun n')
    (hrest : EndsRun rest) (heq : n ++ rest = n' ++ rest') : n' <+: n := by
  obtain ⟨digits, hrun, rfl | rfl⟩ := h <;> obtain ⟨digits', hrun', rfl | rfl⟩ := h'
  · exact hrun'.prefix_of_append_eq hrest heq
  · exact absurd heq hrun.append_ne_minus
  · exact absurd heq.symm hrun'.append_ne_minus
  · rw [List.cons_append, List.cons_append, List.cons.injEq] at heq
    exact List.cons_prefix_cons.mpr ⟨rfl, hrun'.prefix_of_append_eq hrest heq.2⟩

/-- At one place there is one numeral that no digit follows. -/
theorem IsSignedRun.append_inj (h : IsSignedRun n) (h' : IsSignedRun n') (hrest : EndsRun rest)
    (hrest' : EndsRun rest') (heq : n ++ rest = n' ++ rest') : n = n' :=
  (h'.prefix_of_append_eq h hrest' heq.symm).eq_of_length_le
    (h.prefix_of_append_eq h' hrest heq).length_le

end Runs

/-! ## Reading forms -/

section Forms

variable {n x y text : List Char}

theorem isPrefixOf?_eq_some_iff {word rest : List Char} :
    word.isPrefixOf? text = some rest ↔ text = word ++ rest :=
  List.isPrefixOf?_eq_some_iff_append_eq.trans eq_comm

theorem endsRun_cons {c : Char} (rest : List Char) (h : isDecimalDigit c = false) :
    EndsRun (c :: rest) := by
  rintro _ ⟨⟩
  exact h

theorem moveRight?_eq_some_iff :
    moveRight? text = some n ↔
      ∃ rest, IsRun n ∧ EndsRun rest ∧ text = "Move Right ".toList ++ (n ++ rest) := by
  simp only [moveRight?, Option.bind_eq_bind, Option.bind_eq_some_iff, isPrefixOf?_eq_some_iff,
    Prod.exists, digitRun?_eq_some_iff, Option.pure_def, Option.some.injEq]
  constructor
  · rintro ⟨_, rfl, _, rest, ⟨hrun, hrest, rfl⟩, rfl⟩
    exact ⟨rest, hrun, hrest, rfl⟩
  · rintro ⟨rest, hrun, hrest, rfl⟩
    exact ⟨_, rfl, n, rest, ⟨hrun, hrest, rfl⟩, rfl⟩

/-- Where `Move Right N` fits, the scan takes the longest run of digits. -/
theorem readBy_moveRight : moveRightForm.ReadBy moveRight? where
  longest := by
    intro text n h
    obtain ⟨rest, hrun, hrest, rfl⟩ := moveRight?_eq_some_iff.mp h
    refine ⟨_, ⟨⟨hrun, rfl⟩, rest, (List.append_assoc _ _ _).symm⟩, ?_⟩
    rintro n' _ ⟨⟨hrun', rfl⟩, rest', heq⟩
    rw [List.nil_append, List.append_assoc] at heq
    -- No digit follows what was read, so that no run at this place is longer.
    have hprefix := hrun'.prefix_of_append_eq hrest (List.append_cancel_left heq)
    simpa using hprefix.length_le
  isSome := by
    rintro text n _ ⟨⟨hrun, rfl⟩, rest, rfl⟩
    rw [List.nil_append, List.append_assoc]
    obtain ⟨⟨m, rest'⟩, hm⟩ := Option.isSome_iff_exists.mp (isSome_digitRun?_append hrun rest)
    obtain ⟨hrun', hrest', heq⟩ := digitRun?_eq_some_iff.mp hm
    rw [moveRight?_eq_some_iff.mpr ⟨rest', hrun', hrest', heq ▸ rfl⟩]
    rfl
  inj := by
    rintro n n' _ ⟨-, rfl⟩ ⟨-, heq⟩
    exact List.append_cancel_left heq

theorem turn?_eq_some_iff :
    turn? text = some n ↔
      ∃ rest, IsSignedRun n ∧ text = "Turn ".toList ++ (n ++ (" degrees".toList ++ rest)) := by
  simp only [turn?, Option.bind_eq_bind, Option.bind_eq_some_iff, isPrefixOf?_eq_some_iff,
    Prod.exists, signedRun?_eq_some_iff, Option.pure_def, Option.some.injEq]
  constructor
  · rintro ⟨_, rfl, _, _, ⟨hrun, -, rfl⟩, rest, rfl, rfl⟩
    exact ⟨rest, hrun, rfl⟩
  · rintro ⟨rest, hrun, rfl⟩
    exact ⟨_, rfl, n, _, ⟨hrun, endsRun_cons _ (by decide), rfl⟩, rest, rfl, rfl⟩

/-- At one place, `Turn N degrees` fits with one numeral only. -/
theorem numeral_of_occurs_turn {before t n' t' : List Char}
    (h : turnForm.Occurs text before n t) (h' : turnForm.Occurs text before n' t') : n = n' := by
  obtain ⟨⟨hrun, rfl⟩, rest, htext⟩ := h
  obtain ⟨⟨hrun', rfl⟩, rest', htext'⟩ := h'
  have heq := htext.symm.trans htext'
  simp only [List.append_assoc, List.append_cancel_left_eq] at heq
  exact hrun.append_inj hrun' (endsRun_cons _ (by decide)) (endsRun_cons _ (by decide)) heq

/-- Where `Turn N degrees` fits, taking the longest run of digits finds it. -/
theorem readBy_turn : turnForm.ReadBy turn? where
  longest := by
    intro text n h
    obtain ⟨rest, hrun, htext⟩ := turn?_eq_some_iff.mp h
    have hoccurs : turnForm.Occurs text [] n ("Turn ".toList ++ n ++ " degrees".toList) :=
      ⟨⟨hrun, rfl⟩, rest, by simpa using htext⟩
    refine ⟨_, hoccurs, fun n' t' hoccurs' => ?_⟩
    -- All occurrences at one place have one numeral, and with it one length.
    obtain rfl := numeral_of_occurs_turn hoccurs hoccurs'
    rw [hoccurs'.1.2]
  isSome := by
    rintro text n _ ⟨⟨hrun, rfl⟩, rest, rfl⟩
    have hread := turn?_eq_some_iff.mpr ⟨rest, hrun, rfl⟩
    simp only [List.nil_append, List.append_assoc, hread, Option.isSome_some]
  inj := fun h h' => numeral_of_occurs_turn (Form.occurs_self h) (Form.occurs_self h')

theorem goTo?_eq_some_iff :
    goTo? text = some (x, y) ↔
      ∃ rest, IsSignedRun x ∧ IsSignedRun y ∧ EndsRun rest ∧
        text = "Go to X: ".toList ++ (x ++ (", Y: ".toList ++ (y ++ rest))) := by
  simp only [goTo?, Option.bind_eq_bind, Option.bind_eq_some_iff, isPrefixOf?_eq_some_iff,
    Prod.exists, signedRun?_eq_some_iff, Option.pure_def, Option.some.injEq, Prod.mk.injEq]
  constructor
  · rintro ⟨_, rfl, _, _, ⟨hx, -, rfl⟩, _, rfl, _, rest, ⟨hy, hrest, rfl⟩, rfl, rfl⟩
    exact ⟨rest, hx, hy, hrest, rfl⟩
  · rintro ⟨rest, hx, hy, hrest, rfl⟩
    exact ⟨_, rfl, x, _, ⟨hx, endsRun_cons _ (by decide), rfl⟩, _, rfl, y, rest,
      ⟨hy, hrest, rfl⟩, rfl, rfl⟩

/-- At one place, `Go to X: N, Y: M` fits with one first numeral only. -/
theorem goTo_append_inj {x' y' rest rest' : List Char} (hx : IsSignedRun x) (hx' : IsSignedRun x')
    (heq : "Go to X: ".toList ++ (x ++ (", Y: ".toList ++ (y ++ rest))) =
      "Go to X: ".toList ++ (x' ++ (", Y: ".toList ++ (y' ++ rest')))) :
    x = x' ∧ y ++ rest = y' ++ rest' := by
  have htail := List.append_cancel_left heq
  obtain rfl := hx.append_inj hx' (endsRun_cons _ (by decide)) (endsRun_cons _ (by decide)) htail
  exact ⟨rfl, List.append_cancel_left (List.append_cancel_left htail)⟩

/-- Of two second numerals of `Go to X: N, Y: M` at one place, one goes on where the other ends. -/
theorem numerals_of_occurs_goTo {before t t' x' y' : List Char}
    (h : goToForm.Occurs text before (x, y) t) (h' : goToForm.Occurs text before (x', y') t') :
    x = x' ∧ (y <+: y' ∨ y' <+: y) := by
  obtain ⟨⟨hx, -, rfl⟩, rest, htext⟩ := h
  obtain ⟨⟨hx', -, rfl⟩, rest', htext'⟩ := h'
  have heq := htext.symm.trans htext'
  simp only [List.append_assoc] at heq
  obtain ⟨rfl, htail⟩ := goTo_append_inj hx hx' (List.append_cancel_left heq)
  exact ⟨rfl, List.prefix_or_prefix_of_prefix (List.prefix_append y rest) ⟨rest', htail.symm⟩⟩

/-- Where `Go to X: N, Y: M` fits, taking the longest runs of digits finds it. -/
theorem readBy_goTo : goToForm.ReadBy goTo? where
  longest := by
    rintro text ⟨x, y⟩ h
    obtain ⟨rest, hx, hy, hrest, rfl⟩ := goTo?_eq_some_iff.mp h
    refine ⟨_, ⟨⟨hx, hy, rfl⟩, rest, by simp only [List.append_assoc, List.nil_append]⟩, ?_⟩
    rintro ⟨x', y'⟩ _ ⟨⟨hx', hy', rfl⟩, rest', heq⟩
    simp only [List.append_assoc, List.nil_append] at heq
    obtain ⟨rfl, htail⟩ := goTo_append_inj hx hx' heq
    -- The first numerals agree, and the second one that was read is not followed by a digit.
    have hprefix := hy.prefix_of_append_eq hy' hrest htail
    simpa using hprefix.length_le
  isSome := by
    rintro text ⟨x, y⟩ _ ⟨⟨hx, hy, rfl⟩, rest, rfl⟩
    -- Digits may follow the second numeral; what is read then has them as well.
    obtain ⟨⟨m, rest'⟩, hm⟩ := Option.isSome_iff_exists.mp (isSome_signedRun?_append hy rest)
    obtain ⟨hm, hrest', heq⟩ := signedRun?_eq_some_iff.mp hm
    have hread := goTo?_eq_some_iff.mpr ⟨rest', hx, hm, hrest', rfl⟩
    simp only [List.nil_append, List.append_assoc, heq, hread, Option.isSome_some]
  inj := by
    rintro ⟨x, y⟩ ⟨x', y'⟩ _ ⟨hx, -, rfl⟩ ⟨hx', -, heq⟩
    have heq : "Go to X: ".toList ++ (x ++ (", Y: ".toList ++ (y ++ []))) =
        "Go to X: ".toList ++ (x' ++ (", Y: ".toList ++ (y' ++ []))) := by
      simpa only [List.append_assoc, List.append_nil] using heq
    obtain ⟨rfl, htail⟩ := goTo_append_inj hx hx' heq
    rw [List.append_nil, List.append_nil] at htail
    rw [htail]

end Forms

/-! ## Values of numerals -/

section Values

variable {digits n text : List Char}

theorem digits?_eq_some_iff {k : Nat} :
    Text.digits? text = some k ↔
      text ≠ [] ∧ (∀ c ∈ text, c.isDigit = true) ∧ Nat.ofDigitChars 10 text 0 = k := by
  simp [Text.digits?, and_assoc]

/-- A run of digits has no sign of its own. -/
theorem integer?_of_isRun (h : IsRun digits) :
    Text.integer? digits = (Text.digits? digits).map Int.ofNat := by
  have hsign {c : Char} {rest : List Char} (hc : isDecimalDigit c = false) :
      digits ≠ c :: rest := by
    rintro rfl
    exact absurd (h.2 c (.head _)) (by simp [hc])
  rw [Text.integer?.eq_def]
  split
  · exact absurd rfl (hsign (by decide))
  · rw [Text.natural?.eq_def]
    split
    · exact absurd rfl (hsign (by decide))
    · rfl

theorem integer?_minus (digits : List Char) :
    Text.integer? ('-' :: digits) = (Text.digits? digits).map fun k => -Int.ofNat k := by
  rw [Text.integer?]
  cases Text.digits? digits <;> rfl

theorem integer?_eq_some_iff {k : Int} (h : IsSignedRun n) :
    Text.integer? n = some k ↔ Denotes n k := by
  obtain ⟨digits, hrun, rfl | rfl⟩ := h
  · simp only [integer?_of_isRun hrun, Option.map_eq_some_iff, digits?_eq_some_iff]
    constructor
    · rintro ⟨_, ⟨-, hdigits, rfl⟩, rfl⟩
      exact .natural hdigits
    · rintro (hdigits | hdigits)
      · exact ⟨_, ⟨hrun.1, hdigits, rfl⟩, rfl⟩
      · exact absurd (List.append_nil _) hrun.append_ne_minus
  · simp only [integer?_minus, Option.map_eq_some_iff, digits?_eq_some_iff]
    constructor
    · rintro ⟨_, ⟨-, hdigits, rfl⟩, rfl⟩
      exact .negative hdigits
    · rintro (hdigits | hdigits)
      · exact absurd (hdigits '-' (.head _)) (by decide)
      · exact ⟨_, ⟨hrun.1, hdigits, rfl⟩, rfl⟩

/-- A numeral is read as a word of 32 bits exactly if it stands for the value of that word. -/
theorem int32?_eq_some_iff {v : Int32} (h : IsSignedRun n) :
    Text.int32? n = some v ↔ Denotes n v.toInt := by
  simp only [Text.int32?, Option.bind_eq_bind, Option.bind_eq_some_iff, integer?_eq_some_iff h,
    Option.ite_none_right_eq_some, Option.some.injEq]
  constructor
  · rintro ⟨k, hk, ⟨low, high⟩, rfl⟩
    rwa [Int32.toInt_ofInt_of_le low (Int.lt_add_one_of_le high)]
  · intro hv
    exact ⟨v.toInt, hv, ⟨v.minValue_le_toInt, v.toInt_le⟩, v.ofInt_toInt⟩

theorem int32?_eq_none_iff (h : IsSignedRun n) :
    Text.int32? n = none ↔ ∀ v : Int32, ¬ Denotes n v.toInt := by
  simp only [Option.eq_none_iff_forall_ne_some, ne_eq, int32?_eq_some_iff h]

end Values

/-! ## Main statement -/

theorem fixed?_eq_some_iff {text : List Char} {command : Command} :
    fixed? text = some command ↔
      ∃ word, text = word.toList ∧ (word, command) ∈ fixedTexts := by
  constructor
  · intro h
    rw [fixed?] at h
    split at h
    · next heq => cases h; exact ⟨_, heq, by simp [fixedTexts]⟩
    split at h
    · next heq => cases h; exact ⟨_, heq, by simp [fixedTexts]⟩
    split at h
    · next heq => cases h; exact ⟨_, heq, by simp [fixedTexts]⟩
    split at h
    · next heq => cases h; exact ⟨_, heq, by simp [fixedTexts]⟩
    · cases h
  · rintro ⟨word, rfl, hknown⟩
    simp only [fixedTexts, List.mem_cons, Prod.mk.injEq, List.not_mem_nil, or_false] at hknown
    rcases hknown with ⟨rfl, rfl⟩ | ⟨rfl, rfl⟩ | ⟨rfl, rfl⟩ | ⟨rfl, rfl⟩ <;> decide

theorem fixed?_eq_none_iff {text : List Char} :
    fixed? text = none ↔ ∀ entry ∈ fixedTexts, text ≠ entry.1.toList := by
  simp only [Option.eq_none_iff_forall_ne_some, ne_eq, fixed?_eq_some_iff, Prod.forall]
  constructor
  · exact fun h word command hknown heq => h command ⟨word, heq, hknown⟩
  · rintro h command ⟨word, heq, hknown⟩
    exact h word command hknown heq

theorem position?_eq_some_iff {x y : List Char} {target : Position} (hx : IsSignedRun x)
    (hy : IsSignedRun y) :
    position? x y = some target ↔ Denotes x target.x.toInt ∧ Denotes y target.y.toInt := by
  simp only [position?, Option.bind_eq_bind, Option.bind_eq_some_iff, int32?_eq_some_iff hx,
    int32?_eq_some_iff hy, Option.pure_def, Option.some.injEq]
  constructor
  · rintro ⟨_, hx, _, hy, rfl⟩
    exact ⟨hx, hy⟩
  · rintro ⟨hx, hy⟩
    exact ⟨_, hx, _, hy, rfl⟩

section Says

variable {α : Type} {form : Form α} {text numeral x y : List Char}

/-- The numerals of a first occurrence are written in the form. -/
theorem Form.First.exists_form {n : α} (h : form.First text n) : ∃ t, form n t := by
  obtain ⟨_, t, hoccurs, -⟩ := h
  exact ⟨t, hoccurs.1⟩

theorem isSignedRun_of_first_moveRight (h : moveRightForm.First text numeral) :
    IsSignedRun numeral := by
  obtain ⟨_, hrun, -⟩ := h.exists_form
  exact hrun.signed

theorem isSignedRun_of_first_turn (h : turnForm.First text numeral) : IsSignedRun numeral := by
  obtain ⟨_, hrun, -⟩ := h.exists_form
  exact hrun

theorem isSignedRun_of_first_goTo (h : goToForm.First text (x, y)) :
    IsSignedRun x ∧ IsSignedRun y := by
  obtain ⟨_, hx, hy, -⟩ := h.exists_form
  exact ⟨hx, hy⟩

/-- What is read from a text is what it says. -/
theorem says_ofChars (text : List Char) : Says text (Command.ofChars text) := by
  -- One form after the other, where each later one has the failures of those before it at hand.
  rw [Command.ofChars]
  split
  · next numeral hmove =>
    have hfirst := (Form.firstMatch?_eq_some_iff readBy_moveRight).mp hmove
    have hrun := isSignedRun_of_first_moveRight hfirst
    cases hvalue : Text.int32? numeral with
    | none => exact .moveRightUnfit hfirst ((int32?_eq_none_iff hrun).mp hvalue)
    | some n => exact .moveRight hfirst ((int32?_eq_some_iff hrun).mp hvalue)
  next hmove =>
  have hmove := (Form.firstMatch?_eq_none_iff readBy_moveRight).mp hmove
  split
  · next command hfixed =>
    obtain ⟨word, hwhole, hknown⟩ := fixed?_eq_some_iff.mp hfixed
    exact .fixed hmove hwhole hknown
  next hfixed =>
  have hfixed := fixed?_eq_none_iff.mp hfixed
  split
  · next numeral hturn =>
    have hfirst := (Form.firstMatch?_eq_some_iff readBy_turn).mp hturn
    have hrun := isSignedRun_of_first_turn hfirst
    cases hvalue : Text.int32? numeral with
    | none => exact .turnUnfit hmove hfixed hfirst ((int32?_eq_none_iff hrun).mp hvalue)
    | some n => exact .turn hmove hfixed hfirst ((int32?_eq_some_iff hrun).mp hvalue)
  next hturn =>
  have hturn := (Form.firstMatch?_eq_none_iff readBy_turn).mp hturn
  split
  · next x y hgoTo =>
    have hfirst := (Form.firstMatch?_eq_some_iff readBy_goTo).mp hgoTo
    obtain ⟨hx, hy⟩ := isSignedRun_of_first_goTo hfirst
    cases hvalue : position? x y with
    | none =>
      refine .goToUnfit hmove hfixed hturn hfirst fun target htarget => ?_
      rw [(position?_eq_some_iff hx hy).mpr htarget] at hvalue
      cases hvalue
    | some target =>
      obtain ⟨across, down⟩ := (position?_eq_some_iff hx hy).mp hvalue
      exact .goTo hmove hfixed hturn hfirst across down
  next hgoTo =>
  exact .nothing hmove hfixed hturn ((Form.firstMatch?_eq_none_iff readBy_goTo).mp hgoTo)

/-- What a text says is read from it. -/
theorem Says.ofChars_eq {command : Command} (h : Says text command) :
    Command.ofChars text = command := by
  have hnoMove (move : ¬ moveRightForm.Fits text) : firstMatch? moveRight? text = none :=
    (Form.firstMatch?_eq_none_iff readBy_moveRight).mpr move
  have hnoTurn (turn : ¬ turnForm.Fits text) : firstMatch? turn? text = none :=
    (Form.firstMatch?_eq_none_iff readBy_turn).mpr turn
  rw [Command.ofChars]
  cases h with
  | moveRight first value =>
    have hvalue := (int32?_eq_some_iff (isSignedRun_of_first_moveRight first)).mpr value
    simp [(Form.firstMatch?_eq_some_iff readBy_moveRight).mpr first, hvalue]
  | moveRightUnfit first unfit =>
    have hvalue := (int32?_eq_none_iff (isSignedRun_of_first_moveRight first)).mpr unfit
    simp [(Form.firstMatch?_eq_some_iff readBy_moveRight).mpr first, hvalue]
  | fixed move whole known =>
    simp [hnoMove move, fixed?_eq_some_iff.mpr ⟨_, whole, known⟩]
  | turn move fixed first value =>
    have hvalue := (int32?_eq_some_iff (isSignedRun_of_first_turn first)).mpr value
    simp [hnoMove move, fixed?_eq_none_iff.mpr fixed,
      (Form.firstMatch?_eq_some_iff readBy_turn).mpr first, hvalue]
  | turnUnfit move fixed first unfit =>
    have hvalue := (int32?_eq_none_iff (isSignedRun_of_first_turn first)).mpr unfit
    simp [hnoMove move, fixed?_eq_none_iff.mpr fixed,
      (Form.firstMatch?_eq_some_iff readBy_turn).mpr first, hvalue]
  | goTo move fixed turn first across down =>
    obtain ⟨hx, hy⟩ := isSignedRun_of_first_goTo first
    have hvalue := (position?_eq_some_iff hx hy).mpr ⟨across, down⟩
    simp [hnoMove move, fixed?_eq_none_iff.mpr fixed, hnoTurn turn,
      (Form.firstMatch?_eq_some_iff readBy_goTo).mpr first, hvalue]
  | goToUnfit move fixed turn first unfit =>
    obtain ⟨hx, hy⟩ := isSignedRun_of_first_goTo first
    have hvalue := Option.eq_none_iff_forall_ne_some.mpr fun target htarget =>
      unfit target ((position?_eq_some_iff hx hy).mp htarget)
    simp [hnoMove move, fixed?_eq_none_iff.mpr fixed, hnoTurn turn,
      (Form.firstMatch?_eq_some_iff readBy_goTo).mpr first, hvalue]
  | nothing move fixed turn goTo =>
    simp [hnoMove move, fixed?_eq_none_iff.mpr fixed, hnoTurn turn,
      (Form.firstMatch?_eq_none_iff readBy_goTo).mpr goTo]

end Says

/-- A text stands for a command exactly if the grammar says so: for `Move Right N`, where the first
occurrence of this form is the one with the least text before it and the most digits; else for one
of the fixed commands, as the whole text; else for `Turn N degrees` or `Go to X: N, Y: M` in the
same way; and for `idle` if none of them fits, or if the numerals of the first form that fits do not
stand for words of 32 bits. For the last two forms, the place decides the numerals up to the length
of the last one, so that the scan for them, which never goes back, finds their first occurrence. -/
theorem ofText_eq_iff_says (text : String) :
    (∀ command, Command.ofText text = command ↔ Says text.toList command) ∧
    (∀ before n t n' t', turnForm.Occurs text.toList before n t →
      turnForm.Occurs text.toList before n' t' → n = n') ∧
    (∀ before x y t x' y' t', goToForm.Occurs text.toList before (x, y) t →
      goToForm.Occurs text.toList before (x', y') t' → x = x' ∧ (y <+: y' ∨ y' <+: y)) ∧
    (∀ n, firstMatch? turn? text.toList = some n ↔ turnForm.First text.toList n) ∧
    ∀ n, firstMatch? goTo? text.toList = some n ↔ goToForm.First text.toList n := by
  refine ⟨fun command => ⟨?_, Says.ofChars_eq⟩, fun _ _ _ _ _ => numeral_of_occurs_turn,
    fun _ _ _ _ _ _ _ => numerals_of_occurs_goTo,
    fun _ => Form.firstMatch?_eq_some_iff readBy_turn,
    fun _ => Form.firstMatch?_eq_some_iff readBy_goTo⟩
  rintro rfl
  exact says_ofChars text.toList

example : Command.ofText "Move Right ٣, Turn 5 degrees" = .idle := by decide +kernel

end Motion

end SpriteStage
