import Mathlib.Algebra.BigOperators.Group.List.Basic
import Mathlib.Algebra.Order.BigOperators.Group.List
import Mathlib.Algebra.Ring.Int.Defs
import Mathlib.Data.List.DropRight
import SpriteStage.Proofs.Motion.WrittenForm
import SpriteStage.Proofs.Words

/-!
# What scripts add up to

A script of motion commands adds amounts to the coordinates of a sprite and to its rotation, and
begins anew at each jump. The module introduces:

* `Command.rightward`, `Command.downward` and `Command.turned`: what a command adds;
* `lastTarget` and `sinceJump`: where the last jump of a script leads, and what follows it;
* `heldSum`: amounts added up one after the other, each sum held in the range of words;
* `followAll_eq_heldSum`: what a script comes to, whether or not the ends of the range are met;
* `heldSum_of_nonneg` and `heldSum_of_isWord`: when it comes to plain sums.

The main statement is `followAll_adds_up`.
-/

namespace SpriteStage

namespace Command

/-- How far the command goes to the right. -/
def rightward : Command → Int
  | moveRight n => n.toInt
  | _ => 0

/-- How far the command goes down. -/
def downward : Command → Int
  | moveForward => -20
  | moveBackward => 20
  | _ => 0

/-- By how many degrees the command turns to the right. -/
def turned : Command → Int
  | turnRight => 90
  | turnLeft => -90
  | turnBy n => n.toInt
  | _ => 0

/-- Where the command jumps to. -/
def target? : Command → Option Position
  | goTo target => some target
  | _ => none

/-- The command turns and does not move. -/
def isTurn : Command → Bool
  | turnRight | turnLeft | turnBy _ => true
  | _ => false

end Command

/-- Where the last jump leads, or `start` if there is none. -/
def lastTarget (start : Position) (commands : List Command) : Position :=
  (commands.filterMap Command.target?).getLastD start

/-- The commands after the last jump. -/
def sinceJump (commands : List Command) : List Command :=
  commands.rtakeWhile (·.target?.isNone)

/-- The sum of amounts on top of `start`, held in the range of words after each of them. -/
def heldSum (start : Int) (amounts : List Int) : Int :=
  amounts.foldl (fun sum amount => held (sum + amount)) start

/-! ## Held sums -/

theorem heldSum_concat (start : Int) (amounts : List Int) (amount : Int) :
    heldSum start (amounts ++ [amount]) = held (heldSum start amounts + amount) := by
  rw [heldSum, List.foldl_append]
  rfl

/-- Amounts that are not negative can meet the upper end only, and stay there. -/
theorem heldSum_of_nonneg {start : Int} {amounts : List Int} (hstart : IsWord start)
    (hamounts : ∀ amount ∈ amounts, 0 ≤ amount) :
    heldSum start amounts = min 2147483647 (start + amounts.sum) := by
  obtain ⟨hlow, hhigh⟩ := hstart
  induction amounts using List.reverseRecOn with
  | nil =>
    rw [List.sum_nil, Int.add_zero, min_eq_right hhigh]
    rfl
  | append_singleton amounts amount ih =>
    have hbefore : ∀ amount ∈ amounts, 0 ≤ amount := fun a ha =>
      hamounts a (List.mem_append_left _ ha)
    have hsum := List.sum_nonneg hbefore
    have hamount := hamounts amount (List.mem_append_right _ (.head _))
    rw [heldSum_concat, ih hbefore, List.sum_append, List.sum_singleton, held]
    omega

/-- Sums that stay in the range are not held. -/
theorem heldSum_of_isWord {start : Int} {amounts : List Int}
    (h : ∀ n, IsWord (start + (amounts.take n).sum)) :
    heldSum start amounts = start + amounts.sum := by
  induction amounts using List.reverseRecOn with
  | nil => exact (Int.add_zero start).symm
  | append_singleton amounts amount ih =>
    have hbefore (n : Nat) : IsWord (start + (amounts.take n).sum) := by
      have hn := h (min n amounts.length)
      rwa [List.take_append_of_le_length (Nat.min_le_right ..), ← List.take_take,
        List.take_length] at hn
    have hall := h (amounts ++ [amount]).length
    rw [List.take_length, List.sum_append, List.sum_singleton] at hall
    rw [heldSum_concat, ih hbefore, List.sum_append, List.sum_singleton, Int.add_assoc,
      held_of_isWord hall]

/-! ## One command -/

section Follow

variable (t : Transform) (command : Command)

/-- A word that nothing is added to stays as it is. -/
theorem held_toInt_add_zero (a : Int32) : held (a.toInt + 0) = a.toInt := by
  rw [Int.add_zero, held_of_isWord (isWord_toInt a)]

/-- A command adds to the rotation what it turns. -/
theorem rotation_apply :
    (command.apply t).rotation.toInt = held (t.rotation.toInt + command.turned) := by
  cases command with
  | turnRight | turnBy => exact toInt_addClamped_eq _ _
  | turnLeft => exact toInt_subClamped_eq _ _
  | _ => exact (held_toInt_add_zero _).symm

/-- A command that is no jump adds to the coordinates what it moves. -/
theorem position_apply (h : command.target? = none) :
    (command.apply t).position.x.toInt = held (t.position.x.toInt + command.rightward) ∧
      (command.apply t).position.y.toInt = held (t.position.y.toInt + command.downward) := by
  cases command with
  | moveRight => exact ⟨toInt_addClamped_eq _ _, (held_toInt_add_zero _).symm⟩
  | moveForward => exact ⟨(held_toInt_add_zero _).symm, toInt_subClamped_eq _ _⟩
  | moveBackward => exact ⟨(held_toInt_add_zero _).symm, toInt_addClamped_eq _ _⟩
  | goTo => cases h
  | _ => exact ⟨(held_toInt_add_zero _).symm, (held_toInt_add_zero _).symm⟩

/-- A jump forgets the position. -/
theorem position_apply_of_jump {target : Position} (h : command.target? = some target) :
    (command.apply t).position = target := by
  cases command with
  | goTo => exact Option.some.inj h
  | _ => cases h

theorem position_apply_of_isTurn (h : command.isTurn = true) :
    (command.apply t).position = t.position := by
  cases command with
  | turnRight | turnLeft | turnBy => rfl
  | _ => cases h

theorem rotation_apply_of_not_isTurn (h : command.isTurn = false) :
    (command.apply t).rotation = t.rotation := by
  cases command with
  | turnRight | turnLeft | turnBy => cases h
  | _ => rfl

/-- No text stands for a move to the left. -/
theorem rightward_ofText_nonneg (text : String) : 0 ≤ (Command.ofText text).rightward := by
  have hsayable := Motion.isSayable_ofText text
  cases hcommand : Command.ofText text with
  | moveRight n =>
    rw [hcommand] at hsayable
    exact Int32.le_iff_toInt_le.mp (of_decide_eq_true hsayable)
  | _ => exact le_rfl

end Follow

/-! ## Scripts -/

section Jumps

variable (start : Position) (commands : List Command) {command : Command}

theorem lastTarget_concat_of_jump {target : Position} (h : command.target? = some target) :
    lastTarget start (commands ++ [command]) = target := by
  rw [lastTarget, List.filterMap_append, List.filterMap_cons_some h]
  exact List.getLastD_concat

theorem lastTarget_concat (h : command.target? = none) :
    lastTarget start (commands ++ [command]) = lastTarget start commands := by
  rw [lastTarget, List.filterMap_append, List.filterMap_cons_none h, List.filterMap_nil,
    List.append_nil, lastTarget]

theorem sinceJump_concat_of_jump {target : Position} (h : command.target? = some target) :
    sinceJump (commands ++ [command]) = [] := by
  rw [sinceJump, List.rtakeWhile_concat_neg _ _ _ (by rw [h]; exact Bool.false_ne_true)]

theorem sinceJump_concat (h : command.target? = none) :
    sinceJump (commands ++ [command]) = sinceJump commands ++ [command] := by
  rw [sinceJump, List.rtakeWhile_concat_pos _ _ _ (by rw [h]; rfl), sinceJump]

/-- What follows the last jump are commands of the script. -/
theorem mem_of_mem_sinceJump (h : command ∈ sinceJump commands) : command ∈ commands :=
  (List.rtakeWhile_suffix _ _).subset h

/-- Steps down count twenty each, steps up twenty less. -/
theorem sum_downward :
    (commands.map Command.downward).sum =
      20 * (commands.count .moveBackward : Int) - 20 * (commands.count .moveForward : Int) := by
  induction commands with
  | nil => rfl
  | cons command commands ih =>
    rw [List.map_cons, List.sum_cons, ih, List.count_cons, List.count_cons]
    cases command <;> simp [Command.downward] <;> omega

end Jumps

/-- A script leads to the sums of what its commands add: the coordinates from its last jump on, the
rotation from the start. -/
theorem followAll_eq_heldSum (t : Transform) (texts : List String) :
    let commands := texts.map Command.ofText
    let origin := lastTarget t.position commands
    let since := sinceJump commands
    let final := t.followAll texts
    final.position.x.toInt = heldSum origin.x.toInt (since.map Command.rightward) ∧
      final.position.y.toInt = heldSum origin.y.toInt (since.map Command.downward) ∧
      final.rotation.toInt = heldSum t.rotation.toInt (commands.map Command.turned) := by
  induction texts using List.reverseRecOn with
  | nil => exact ⟨rfl, rfl, rfl⟩
  | append_singleton texts text ih =>
    obtain ⟨hx, hy, hrotation⟩ := ih
    have hfinal : t.followAll (texts ++ [text]) =
        (Command.ofText text).apply (t.followAll texts) := by
      rw [Transform.followAll, List.foldl_append]
      rfl
    dsimp only
    rw [hfinal, List.map_append, List.map_singleton, List.map_append, List.map_singleton,
      heldSum_concat, ← hrotation, rotation_apply]
    -- A jump begins the sums of the coordinates anew, any other command goes on with them.
    cases htarget : (Command.ofText text).target? with
    | some target =>
      rw [lastTarget_concat_of_jump _ _ htarget, sinceJump_concat_of_jump _ htarget,
        position_apply_of_jump _ _ htarget]
      exact ⟨rfl, rfl, rfl⟩
    | none =>
      obtain ⟨hright, hdown⟩ := position_apply (t.followAll texts) _ htarget
      rw [lastTarget_concat _ _ htarget, sinceJump_concat _ htarget, List.map_append,
        List.map_singleton, List.map_append, List.map_singleton, heldSum_concat, heldSum_concat,
        ← hx, ← hy]
      exact ⟨hright, hdown, rfl⟩

/-! ## Main statement -/

/-- What a script of any texts does to a transform, in integers without bounds:

* `x` is where the last jump leads, or the script starts, and the amounts to the right since then,
  or the end of the range if that is less;
* `y` is where the last jump leads, or the script starts, and twenty for each step down and less
  twenty for each step up since then, if these sums stay in the range of words;
* the rotation has all turns added to it, if these sums stay in the range;
* on the way, all three stay in the range in any case;
* no turn changes the position, nothing else the rotation, and only a jump can lead to the left. -/
theorem followAll_adds_up (t : Transform) (texts : List String) :
    let commands := texts.map Command.ofText
    let origin := lastTarget t.position commands
    let since := sinceJump commands
    let final := t.followAll texts
    final.position.x.toInt =
      min (2 ^ 31 - 1) (origin.x.toInt + (since.map Command.rightward).sum) ∧
    ((∀ n, IsWord (origin.y.toInt + ((since.take n).map Command.downward).sum)) →
      final.position.y.toInt = origin.y.toInt + 20 * (since.count .moveBackward : Int) -
        20 * (since.count .moveForward : Int)) ∧
    ((∀ n, IsWord (t.rotation.toInt + ((commands.take n).map Command.turned).sum)) →
      final.rotation.toInt = t.rotation.toInt + (commands.map Command.turned).sum) ∧
    (∀ n, let between := t.followAll (texts.take n)
      IsWord between.position.x.toInt ∧ IsWord between.position.y.toInt ∧
        IsWord between.rotation.toInt) ∧
    ∀ (u : Transform) (text : String),
      ((Command.ofText text).isTurn = true → (u.follow text).position = u.position) ∧
      ((Command.ofText text).isTurn = false → (u.follow text).rotation = u.rotation) ∧
      ((Command.ofText text).target? = none → u.position.x ≤ (u.follow text).position.x) := by
  intro commands origin since final
  obtain ⟨hx, hy, hrotation⟩ := followAll_eq_heldSum t texts
  refine ⟨?_, fun hwords => ?_, fun hwords => ?_, fun n => ?_, fun u text => ⟨?_, ?_, ?_⟩⟩
  · refine hx.trans (heldSum_of_nonneg (isWord_toInt _) fun amount hamount => ?_)
    obtain ⟨command, hcommand, rfl⟩ := List.mem_map.mp hamount
    obtain ⟨text, -, rfl⟩ := List.mem_map.mp (mem_of_mem_sinceJump _ hcommand)
    exact rightward_ofText_nonneg text
  · have hsum : final.position.y.toInt = origin.y.toInt + (since.map Command.downward).sum :=
      hy.trans (heldSum_of_isWord fun n => List.map_take ▸ hwords n)
    rw [hsum, sum_downward, Int.add_sub_assoc]
  · exact hrotation.trans (heldSum_of_isWord fun n => List.map_take ▸ hwords n)
  · exact ⟨isWord_toInt _, isWord_toInt _, isWord_toInt _⟩
  · exact position_apply_of_isTurn u _
  · exact rotation_apply_of_not_isTurn u _
  · intro hmoves
    have hnonneg := rightward_ofText_nonneg text
    have hword := isWord_toInt u.position.x
    rw [Int32.le_iff_toInt_le, Transform.follow, (position_apply u _ hmoves).1, held]
    obtain ⟨hlow, hhigh⟩ := hword
    omega

-- A step up at the upper edge is lost, and the step down after it is not.
example : ((⟨⟨0, Int32.minValue⟩, 0⟩ : Transform).followAll
    ["Move Forward", "Move Backward"]).position.y = Int32.minValue + 20 := by decide +kernel

end SpriteStage
