import SpriteStage.CommandLine.Options

/-!
# Arguments without some of their values

Four options can be given several times, so that some of their values can be struck out of the
arguments, each together with its option. The rest is read as before. The module introduces:

* `Rejections`: which values of the four options are to be struck out;
* `Options.without`: options without these values;
* `Rejections.strike`: arguments without these values.

The main statement is `ofArguments_strike`: what is left of the arguments gives what is left of the
options.
-/

namespace SpriteStage

/-- Which values are rejected of the options that can be given several times. -/
structure Rejections where
  /-- The kinds of sprites that are rejected. -/
  sprite : String → Bool
  /-- The sprites for which a tab is rejected. -/
  tab : Nat → Bool
  /-- The commands that are rejected. -/
  motion : String → Bool
  /-- The tracked positions that are rejected. -/
  track : String → Bool

namespace Rejections

/-- The value of an option is rejected. -/
def rejects (rejections : Rejections) (key : Key) (value : String) : Bool :=
  match key with
  | .config | .writeConfig => false
  | .sprite => rejections.sprite value
  | .tab => (Text.integer? value.toList).any (rejections.tab ·.toNat)
  | .motion => rejections.motion value
  | .track => rejections.track value

/-- The arguments that are left when every rejected value is struck out, with its option. -/
def strike (rejections : Rejections) : List String → List String
  | [] => []
  | argument :: rest =>
    match Options.Argument.of argument with
    | .assigned name value =>
      if (Key.ofName? name).any (rejections.rejects · value) then strike rejections rest
      else argument :: strike rejections rest
    | .long name =>
      match Key.ofName? name, rest with
      | some key, value :: rest =>
        if rejections.rejects key value then strike rejections rest
        else argument :: value :: strike rejections rest
      | _, rest => argument :: strike rejections rest
    | _ => argument :: strike rejections rest

/-- Nothing is added to the arguments, and nothing is moved. -/
theorem strike_sublist (rejections : Rejections) (arguments : List String) :
    (rejections.strike arguments).Sublist arguments := by
  fun_induction strike rejections arguments with
  | case1 => exact .refl []
  | case2 _ _ _ _ _ _ ih => exact ih.cons _
  | case4 _ _ _ _ _ _ _ _ ih => exact (ih.cons _).cons _
  | case5 _ _ _ _ _ _ _ _ ih => exact (ih.cons_cons _).cons_cons _
  | case3 _ _ _ _ _ _ ih | case6 _ _ _ _ _ ih | case7 _ _ _ _ ih => exact ih.cons_cons _

end Rejections

namespace Options

/-- The options that are left when every rejected value is taken out. -/
def without (options : Options) (rejections : Rejections) : Options :=
  { options with
    sprites := options.sprites.filter (!rejections.sprite ·)
    tabs := options.tabs.filter (!rejections.tab ·)
    motions := options.motions.filter (!rejections.motion ·)
    tracks := options.tracks.filter (!rejections.track ·) }

variable {rejections : Rejections} {options options' : Options}

/-- A rejected value is not among the options that are left. -/
theorem without_assign?_of_rejects {key : Key} {value : String}
    (h : options.assign? key value = some options')
    (hrejects : rejections.rejects key value = true) :
    options'.without rejections = options.without rejections := by
  cases key with
  | config | writeConfig => cases hrejects
  | tab =>
    obtain ⟨n, hn, h⟩ := Option.bind_eq_some_iff.mp h
    obtain rfl := Option.some.inj (Option.ite_none_right_eq_some.mp h).2
    rw [Rejections.rejects, hn] at hrejects
    simpa [without] using hrejects
  | sprite | motion | track =>
    obtain rfl := Option.some.inj h
    simpa [without, Rejections.rejects] using hrejects

/-- Any other value is given to the options that are left, as it is to all of them. -/
theorem without_assign?_of_not_rejects {key : Key} {value : String}
    (h : options.assign? key value = some options')
    (hrejects : ¬rejections.rejects key value = true) :
    (options.without rejections).assign? key value = some (options'.without rejections) := by
  cases key with
  | config | writeConfig =>
    obtain ⟨hfree, h⟩ := Option.ite_none_left_eq_some.mp h
    obtain rfl := Option.some.inj h
    exact if_neg hfree
  | tab =>
    obtain ⟨n, hn, h⟩ := Option.bind_eq_some_iff.mp h
    obtain ⟨hfits, h⟩ := Option.ite_none_right_eq_some.mp h
    obtain rfl := Option.some.inj h
    rw [Rejections.rejects, hn] at hrejects
    simp_all [assign?, without]
  | sprite | motion | track =>
    obtain rfl := Option.some.inj h
    simp_all [assign?, without, Rejections.rejects]

/-- A flag does not look at values. -/
theorem flag_without (name : String) :
    (options.without rejections).flag name = (options.flag name).map (·.without rejections) := by
  rw [flag.eq_def options]
  split
  · rw [flag, apply_ite (Except.map _)]
    rfl
  · rw [flag, apply_ite (Except.map _)]
    rfl
  · rw [flag, apply_ite (Except.map _)]
    rfl
  · rfl
  · rfl
  · rw [flag]
    · rfl
    all_goals assumption

/-- What is left of arguments that are understood gives what is left of the options, or stops the
reading for the same reason. -/
theorem read_strike (rejections : Rejections) (options : Options) (arguments : List String)
    (h : read options arguments ≠ .error .usage) :
    read (options.without rejections) (rejections.strike arguments) =
      (read options arguments).map (·.without rejections) := by
  fun_induction read options arguments with
  | case1 options => rfl
  | case2 options argument rest hargument hrest =>
    simp only [List.isEmpty_iff.mp hrest, Rejections.strike, hargument, read]
    rfl
  | case5 options argument rest letters hargument =>
    simp only [Rejections.strike, hargument, read]
    rfl
  | case6 options argument rest name value hargument options' hassigned ih =>
    obtain ⟨key, hkey, hassigned⟩ := Option.bind_eq_some_iff.mp hassigned
    simp only [Rejections.strike, hargument, hkey, Option.any_some]
    split
    · next hrejects => rw [← without_assign?_of_rejects hassigned hrejects, ih h]
    · next hrejects =>
      have hgiven := without_assign?_of_not_rejects hassigned hrejects
      simp only [read, hargument, hkey, Option.bind_some, hgiven]
      exact ih h
  | case9 options argument name hargument key hkey value rest options' hassigned ih =>
    obtain ⟨hvalue, hassigned⟩ := Option.ite_none_right_eq_some.mp hassigned
    simp only [Rejections.strike, hargument, hkey]
    split
    · next hrejects => rw [← without_assign?_of_rejects hassigned hrejects, ih h]
    · next hrejects =>
      have hgiven := without_assign?_of_not_rejects hassigned hrejects
      simp only [read, hargument, hkey, if_pos hvalue, hgiven]
      exact ih h
  | case11 options argument rest name hargument hkey options' hflag ih =>
    simp only [Rejections.strike, hargument, hkey, read, flag_without, hflag, Except.map]
    exact ih h
  | case12 options argument rest name hargument hkey stop hflag =>
    simp only [Rejections.strike, hargument, hkey, read, flag_without, hflag, Except.map]
  -- In the remaining cases an argument is not understood.
  | _ => exact absurd rfl h

theorem ofArguments_strike (rejections : Rejections) {arguments : List String}
    (h : ofArguments arguments ≠ .error .usage) :
    ofArguments (rejections.strike arguments) =
      (ofArguments arguments).map (·.without rejections) :=
  read_strike rejections {} arguments h

end Options

end SpriteStage
