import SpriteStage.Proofs.Motion.Grammar

/-!
# The written form of commands

A command that is written down is read back as what it was. The one exception is a move to the
right by a negative amount: no text stands for it, and its written form stands for `idle`. The
module introduces:

* `Motion.numeral`: an integer as it is written, which is a numeral that denotes it;
* `Command.isSayable`: some text stands for the command;
* `Motion.says_text`: what the written form of a command says.

The main statement is `ofText_text`.
-/

namespace SpriteStage

/-- The command is what some text stands for: only moves to the left have no text. -/
def Command.isSayable : Command → Bool
  | moveRight n => 0 ≤ n
  | _ => true

namespace Motion

/-! ## Written integers -/

/-- An integer as it is written. -/
def numeral (k : Int) : List Char := (toString k).toList

theorem isRun_toDigits (n : Nat) : IsRun (Nat.toDigits 10 n) :=
  ⟨Nat.toDigits_ne_nil, fun _ hc =>
    isDecimalDigit_of_isDigit (Nat.isDigit_of_mem_toDigits (by decide) (by decide) hc)⟩

theorem numeral_natCast (n : Nat) : numeral n = Nat.toDigits 10 n := Nat.toList_repr

theorem numeral_negSucc (n : Nat) : numeral (.negSucc n) = '-' :: Nat.toDigits 10 (n + 1) := by
  change ("-" ++ (n + 1).repr).toList = _
  rw [String.toList_append, Nat.toList_repr]
  rfl

theorem isSignedRun_numeral (k : Int) : IsSignedRun (numeral k) := by
  cases k with
  | ofNat n => exact ⟨_, isRun_toDigits n, .inl (numeral_natCast n)⟩
  | negSucc n => exact ⟨_, isRun_toDigits (n + 1), .inr (numeral_negSucc n)⟩

/-- What is not negative is written without a sign. -/
theorem isRun_numeral {k : Int} (h : 0 ≤ k) : IsRun (numeral k) := by
  obtain ⟨n, rfl⟩ := Int.eq_ofNat_of_zero_le h
  exact numeral_natCast n ▸ isRun_toDigits n

/-- An integer is written as a numeral that denotes it. -/
theorem denotes_numeral (k : Int) : Denotes (numeral k) k := by
  have hdigits (n : Nat) : ∀ c ∈ Nat.toDigits 10 n, c.isDigit = true :=
    fun _ hc => Nat.isDigit_of_mem_toDigits (by decide) (by decide) hc
  cases k with
  | ofNat n =>
    have hdenotes := Denotes.natural (hdigits n)
    rw [Nat.ofDigitChars_ten_toDigits] at hdenotes
    exact (numeral_natCast n).symm ▸ hdenotes
  | negSucc n =>
    have hdenotes := Denotes.negative (hdigits (n + 1))
    rw [Nat.ofDigitChars_ten_toDigits] at hdenotes
    exact (numeral_negSucc n).symm ▸ hdenotes

/-- A written integer holds digits and a minus sign, and nothing else. -/
theorem not_mem_numeral {c : Char} (hdigit : isDecimalDigit c = false) (hminus : c ≠ '-')
    (k : Int) : c ∉ numeral k := by
  intro hc
  obtain ⟨digits, hrun, heq | heq⟩ := isSignedRun_numeral k
  · rw [heq] at hc
    simp [hrun.2 c hc] at hdigit
  · rw [heq] at hc
    simp [hrun.2 c ((List.mem_cons.mp hc).resolve_left hminus)] at hdigit

/-! ## Texts without a form -/

section Fits

variable {α : Type} {form : Form α} {text : List Char}

/-- A form fits in no text that lacks one of its characters. -/
theorem not_fits_of_not_mem {c : Char} (hform : ∀ n t, form n t → c ∈ t) (hc : c ∉ text) :
    ¬ form.Fits text := by
  rintro ⟨before, n, t, ht, after, rfl⟩
  exact hc (List.mem_append_left _ (List.mem_append_right _ (hform n t ht)))

theorem not_fits_moveRight (h : 'M' ∉ text) : ¬ moveRightForm.Fits text :=
  not_fits_of_not_mem (by rintro n _ ⟨-, rfl⟩; simp) h

theorem not_fits_turn (h : 'T' ∉ text) : ¬ turnForm.Fits text :=
  not_fits_of_not_mem (by rintro n _ ⟨-, rfl⟩; simp) h

theorem not_fits_goTo (h : 'G' ∉ text) : ¬ goToForm.Fits text :=
  not_fits_of_not_mem (by rintro n _ ⟨-, -, rfl⟩; simp) h

/-- A text with a character that the fixed commands lack is none of them. -/
theorem ne_of_mem_fixedTexts {c : Char} (hfixed : ∀ entry ∈ fixedTexts, c ∉ entry.1.toList)
    (hc : c ∈ text) : ∀ entry ∈ fixedTexts, text ≠ entry.1.toList := by
  rintro entry hentry rfl
  exact hfixed entry hentry hc

/-- A text that is written in a form as a whole is the first occurrence of it. -/
theorem Form.first_self {n : α} (h : form n text) : form.First text n := by
  refine ⟨[], text, Form.occurs_self h, fun _ _ _ _ => Nat.zero_le _, ?_⟩
  rintro n' t' ⟨-, after, heq⟩
  simp [heq]

end Fits

/-! ## What written forms say -/

/-- With a minus sign in front of its digits, `Move Right N` fits nowhere. -/
theorem not_fits_moveRight_minus (n : Nat) :
    ¬ moveRightForm.Fits ("Move Right ".toList ++ '-' :: Nat.toDigits 10 n) := by
  have hdigits : 'M' ∉ Nat.toDigits 10 n := by
    rw [← numeral_natCast]
    exact not_mem_numeral (by decide) (by decide) n
  -- Only the first character can start an occurrence, and there is no run behind the words.
  change ¬ moveRightForm.Fits ('M' :: ("ove Right ".toList ++ '-' :: Nat.toDigits 10 n))
  rw [Form.fits_cons_iff]
  rintro (⟨digits, _, ⟨hrun, rfl⟩, rest, heq⟩ | hfits)
  · change "Move Right ".toList ++ '-' :: Nat.toDigits 10 n = _ at heq
    rw [List.nil_append, List.append_assoc] at heq
    exact hrun.append_ne_minus (List.append_cancel_left heq).symm
  · exact not_fits_moveRight (by simp [hdigits]) hfits

/-- A command that some text stands for is said by its written form. -/
theorem says_text {command : Command} (h : command.isSayable = true) :
    Says command.text.toList command := by
  cases command with
  | moveRight n =>
    have hn : 0 ≤ n.toInt := Int32.le_iff_toInt_le.mp (of_decide_eq_true h)
    have htext : (Command.moveRight n).text.toList = "Move Right ".toList ++ numeral n.toInt :=
      String.toList_append
    rw [htext]
    exact .moveRight (Form.first_self ⟨isRun_numeral hn, rfl⟩) (denotes_numeral _)
  | moveForward | moveBackward | turnRight | turnLeft =>
    exact .fixed ((Form.firstMatch?_eq_none_iff readBy_moveRight).mp (by decide)) rfl
      (by simp [fixedTexts, Command.text])
  | turnBy n =>
    have htext : (Command.turnBy n).text.toList =
        "Turn ".toList ++ numeral n.toInt ++ " degrees".toList := by
      simp only [Command.text, String.toList_append, numeral]
    have hmove : 'M' ∉ numeral n.toInt := not_mem_numeral (by decide) (by decide) _
    rw [htext]
    exact .turn (not_fits_moveRight (by simp [hmove]))
      (ne_of_mem_fixedTexts (c := 's') (by decide) (by simp))
      (Form.first_self ⟨isSignedRun_numeral _, rfl⟩) (denotes_numeral _)
  | goTo target =>
    have htext : (Command.goTo target).text.toList = "Go to X: ".toList ++ numeral target.x.toInt ++
        ", Y: ".toList ++ numeral target.y.toInt := by
      simp only [Command.text, String.toList_append, numeral]
    have hmove (k : Int) : 'M' ∉ numeral k := not_mem_numeral (by decide) (by decide) k
    have hturn (k : Int) : 'T' ∉ numeral k := not_mem_numeral (by decide) (by decide) k
    rw [htext]
    have hform : goToForm (numeral target.x.toInt, numeral target.y.toInt)
        ("Go to X: ".toList ++ numeral target.x.toInt ++ ", Y: ".toList ++
          numeral target.y.toInt) :=
      ⟨isSignedRun_numeral _, isSignedRun_numeral _, rfl⟩
    exact .goTo (not_fits_moveRight (by simp [hmove]))
      (ne_of_mem_fixedTexts (c := 'G') (by decide) (by simp)) (not_fits_turn (by simp [hturn]))
      (Form.first_self hform) (denotes_numeral _) (denotes_numeral _)
  | idle =>
    exact .nothing (not_fits_moveRight (by decide)) (by decide) (not_fits_turn (by decide))
      (not_fits_goTo (by decide))

/-- The written form of a move to the left says nothing. -/
theorem says_text_of_neg {n : Int32} (h : n < 0) :
    Says (Command.moveRight n).text.toList .idle := by
  obtain ⟨m, hm⟩ := Int.eq_negSucc_of_lt_zero (Int32.lt_iff_toInt_lt.mp h)
  have htext : (Command.moveRight n).text.toList =
      "Move Right ".toList ++ '-' :: Nat.toDigits 10 (m + 1) := by
    rw [← numeral_negSucc, ← hm]
    exact String.toList_append
  have hother {c : Char} (hdigit : isDecimalDigit c = false) (hminus : c ≠ '-') :
      c ∉ Nat.toDigits 10 (m + 1) := by
    rw [← numeral_natCast]
    exact not_mem_numeral hdigit hminus _
  rw [htext]
  refine .nothing (not_fits_moveRight_minus _)
    (ne_of_mem_fixedTexts (c := '-') (by decide) (by simp)) (not_fits_turn ?_) (not_fits_goTo ?_)
  · simp [hother (c := 'T') (by decide) (by decide)]
  · simp [hother (c := 'G') (by decide) (by decide)]

/-- What is said by a text can be said: the amount of a move to the right has no sign. -/
theorem Says.isSayable {text : List Char} {command : Command} (h : Says text command) :
    command.isSayable = true := by
  cases h with
  | @moveRight digits n first value =>
    obtain ⟨_, hrun, -⟩ := first.exists_form
    generalize hk : n.toInt = k at value
    cases value with
    | natural =>
      refine decide_eq_true (Int32.le_iff_toInt_le.mpr ?_)
      rw [hk]
      exact Int.natCast_nonneg _
    | negative => exact absurd (List.append_nil _) hrun.append_ne_minus
  | fixed move whole known =>
    simp only [fixedTexts, List.mem_cons, Prod.mk.injEq, List.not_mem_nil, or_false] at known
    rcases known with ⟨-, rfl⟩ | ⟨-, rfl⟩ | ⟨-, rfl⟩ | ⟨-, rfl⟩ <;> rfl
  | _ => rfl

/-! ## Main statement -/

theorem ofText_text_of_isSayable {command : Command} (h : command.isSayable = true) :
    Command.ofText command.text = command :=
  (says_text h).ofChars_eq

theorem isSayable_ofText (text : String) : (Command.ofText text).isSayable = true :=
  (says_ofChars text.toList).isSayable

/-- Writing a command and reading it again gives it back, except that a move to the right by a
negative amount gives `idle`; and these moves are the commands that no text stands for. So reading,
writing and reading again comes to the same as reading once. The text that it goes through is the
one canonical text of its command, and does the same to every transform. -/
theorem ofText_text :
    (∀ command : Command, (∀ n < 0, command ≠ .moveRight n) →
      Command.ofText command.text = command) ∧
    (∀ n < 0, Command.ofText (Command.moveRight n).text = .idle) ∧
    (∀ command : Command, (∃ text, Command.ofText text = command) ↔
      ∀ n < 0, command ≠ .moveRight n) ∧
    (∀ text, Command.ofText (Command.ofText text).text = Command.ofText text) ∧
    (∀ text text', (Command.ofText text).text = (Command.ofText text').text ↔
      Command.ofText text = Command.ofText text') ∧
    ∀ text (t : Transform), t.follow (Command.ofText text).text = t.follow text := by
  have hsayable (command : Command) :
      command.isSayable = true ↔ ∀ n < 0, command ≠ .moveRight n := by
    cases command with
    | moveRight amount => grind [Command.isSayable]
    | _ => simp [Command.isSayable]
  have hread (text : String) : Command.ofText (Command.ofText text).text = Command.ofText text :=
    ofText_text_of_isSayable (isSayable_ofText text)
  refine ⟨fun command h => ofText_text_of_isSayable ((hsayable command).mpr h),
    fun n hn => (says_text_of_neg hn).ofChars_eq, fun command => ⟨?_, fun h => ?_⟩, hread,
    fun text text' => ⟨fun heq => ?_, congrArg _⟩, fun text t => ?_⟩
  · rintro ⟨text, rfl⟩
    exact (hsayable _).mp (isSayable_ofText text)
  · exact ⟨command.text, ofText_text_of_isSayable ((hsayable command).mpr h)⟩
  · rw [← hread text, heq, hread text']
  · rw [Transform.follow, hread, Transform.follow]

example : Command.ofText (Command.turnBy Int32.minValue).text = .turnBy Int32.minValue := by
  decide +kernel

end Motion

end SpriteStage
