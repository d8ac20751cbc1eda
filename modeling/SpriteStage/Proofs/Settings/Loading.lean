import SpriteStage.Proofs.Decimal.Narrowing

/-!
# Settings after loading

What holds of the settings after a file was loaded, whatever is in it and whether or not it could be
loaded at all. The module introduces:

* `Settings.IsUsable`: the rate is positive, and the time scale is finite and not negative;
* `Settings.afterLoad`: the settings after loading;
* `entriesIn?` and `scaleIn?`: the entries of a file that can be loaded, and the number that it
  gives as time scale.

Whether a time scale is finite is asked before it is narrowed, so that a large one becomes infinite.
The main statement is `Settings.usable_afterLoad`, which says when that happens.
-/

namespace SpriteStage

/-- The settings let a stage run: ticks have a length, and time does not run backwards. -/
structure Settings.IsUsable (settings : Settings) : Prop where
  rate_pos : 1 ≤ settings.tickRate
  scale_finite : settings.timeScale.isFinite = true
  scale_nonneg : 0 ≤ settings.timeScale

/-- The settings after loading. If that fails they are what they were. -/
def Settings.afterLoad (settings : Settings) (file : Except FileFault ByteArray) : Settings :=
  match settings.load file with
  | .ok loaded => loaded.settings
  | .error _ => settings

/-- The entries of a file that can be loaded. -/
def entriesIn? (file : Except FileFault ByteArray) : Option (List Ini.Entry) := do
  let text ← String.fromUTF8? (← file.toOption)
  (Ini.read text.toList).toOption

theorem entriesIn?_ok (bytes : ByteArray) :
    entriesIn? (.ok bytes) =
      (String.fromUTF8? bytes).bind fun text => (Ini.read text.toList).toOption := by rfl

/-- The number that a file gives as time scale, which need not be one. -/
def scaleIn? (file : Except FileFault ByteArray) : Option Float := do
  readNumber? (← Ini.value? (← entriesIn? file) "runner" "time_scale")

/-- Rates are at least one. -/
theorem one_le_of_readRate? {text : List Char} {rate : UInt32} (h : readRate? text = some rate) :
    1 ≤ rate := by
  simp only [readRate?, Option.bind_eq_bind, Option.bind_eq_some_iff] at h
  obtain ⟨n, -, h⟩ := h
  split at h
  · obtain rfl := Option.some.inj h
    rw [UInt32.le_iff_toNat_le, UInt32.toNat_ofNat']
    have hsize : UInt32.size = 4294967296 := rfl
    rw [UInt32.toNat_one]
    omega
  · cases h

namespace Settings

variable {settings : Settings} (entries : List Ini.Entry)

theorem load_ok (settings : Settings) (bytes : ByteArray) :
    settings.load (.ok bytes) =
      ((String.fromUTF8? bytes).elim (Except.error .notText) Except.ok).bind fun text =>
        ((Ini.read text.toList).mapError .malformed).bind fun entries =>
          .ok (settings.adopt entries) := by rfl

/-- What can be loaded is what the entries of a file say. -/
theorem toOption_load (settings : Settings) (file : Except FileFault ByteArray) :
    (settings.load file).toOption = (entriesIn? file).map settings.adopt := by
  cases file with
  | error fault => rfl
  | ok bytes =>
    rw [load_ok, entriesIn?_ok]
    cases String.fromUTF8? bytes with
    | none => rfl
    | some text =>
      rw [Option.elim_some, Option.bind_some, Except.bind]
      cases Ini.read text.toList <;> rfl

/-- A file that can be loaded is adopted, and any other is passed over. -/
theorem afterLoad_eq (settings : Settings) (file : Except FileFault ByteArray) :
    settings.afterLoad file =
      ((entriesIn? file).map fun entries => (settings.adopt entries).settings).getD settings := by
  have hafter : settings.afterLoad file =
      ((settings.load file).toOption.map (·.settings)).getD settings := by
    rw [afterLoad]
    cases settings.load file <;> rfl
  rw [hafter, toOption_load, Option.map_map]
  rfl

theorem one_le_tickRate_adopt (h : 1 ≤ settings.tickRate) :
    1 ≤ (settings.adopt entries).settings.tickRate := by
  rw [adopt]
  cases hrate : (Ini.value? entries "runner" "tick_hz").bind readRate? with
  | none => simpa [hrate] using h
  | some rate =>
    obtain ⟨text, -, hrate'⟩ := Option.bind_eq_some_iff.mp hrate
    simpa [hrate] using one_le_of_readRate? hrate'

/-- The time scale is the narrowed number of the file, if that can be one. -/
theorem timeScale_afterLoad (settings : Settings) (file : Except FileFault ByteArray) :
    (settings.afterLoad file).timeScale =
      (((scaleIn? file).filter isScale).map Float.narrow).getD settings.timeScale := by
  rw [afterLoad_eq, scaleIn?]
  cases entriesIn? file with
  | none => rfl
  | some entries => rfl

theorem one_le_tickRate_afterLoad (h : 1 ≤ settings.tickRate) (file : Except FileFault ByteArray) :
    1 ≤ (settings.afterLoad file).tickRate := by
  rw [afterLoad_eq]
  cases entriesIn? file with
  | none => exact h
  | some entries => exact one_le_tickRate_adopt entries h

/-- Loading keeps the rate positive and the time scale from being negative, whatever the file. It
keeps the settings usable unless the file gives a time scale from the limit on. -/
theorem usable_afterLoad (h : settings.IsUsable) (file : Except FileFault ByteArray) :
    1 ≤ (settings.afterLoad file).tickRate ∧ 0 ≤ (settings.afterLoad file).timeScale ∧
      ((settings.afterLoad file).IsUsable ↔
        ∀ x, scaleIn? file = some x → isScale x = true →
          ∃ v, rational? x = some v ∧ v < narrowLimit) := by
  have hrate := one_le_tickRate_afterLoad h.rate_pos file
  have husable (hnonneg : 0 ≤ (settings.afterLoad file).timeScale) :
      (settings.afterLoad file).IsUsable ↔ (settings.afterLoad file).timeScale.isFinite = true :=
    ⟨IsUsable.scale_finite, fun hfinite => ⟨hrate, hfinite, hnonneg⟩⟩
  have hscale := timeScale_afterLoad settings file
  cases haccepted : (scaleIn? file).filter isScale with
  | none =>
    -- Nothing was taken over, and there is no number that could be.
    rw [haccepted, Option.map_none, Option.getD_none] at hscale
    have hnonneg : 0 ≤ (settings.afterLoad file).timeScale := hscale ▸ h.scale_nonneg
    have hfinite : (settings.afterLoad file).timeScale.isFinite = true := hscale ▸ h.scale_finite
    refine ⟨hrate, hnonneg, iff_of_true ((husable hnonneg).mpr hfinite) fun x hx hisScale => ?_⟩
    have hrefused := Option.filter_eq_none_iff.mp haccepted x hx
    exact absurd hisScale hrefused
  | some x =>
    rw [haccepted, Option.map_some, Option.getD_some] at hscale
    obtain ⟨hx, hisScale⟩ := Option.filter_eq_some_iff.mp haccepted
    obtain ⟨hnonneg, v, hv, hfinite⟩ := narrow_of_isScale hisScale
    rw [← hscale] at hnonneg hfinite
    refine ⟨hrate, hnonneg, (husable hnonneg).trans (hfinite.trans ⟨?_, ?_⟩)⟩
    · intro hbelow y hy _
      obtain rfl : x = y := Option.some.inj (hx.symm.trans hy)
      exact ⟨v, hv, hbelow⟩
    · intro hall
      obtain ⟨v', hv', hbelow⟩ := hall x hx hisScale
      obtain rfl : v = v' := Option.some.inj (hv.symm.trans hv')
      exact hbelow

/-- What holds unless something else is said is usable. -/
theorem isUsable_default : IsUsable {} where
  rate_pos := by decide
  scale_finite := by decide +kernel
  scale_nonneg := by decide +kernel

/-- The last number of 64 bits before the limit can be loaded, and with it a rate of zero, which
counts as one. -/
theorem usable_afterLoad_next_to_limit :
    let file := .ok "[runner]\ntick_hz=0\ntime_scale=3.4028235677973362e38\n".toUTF8
    IsUsable {} ∧ 1 ≤ (afterLoad {} file).tickRate ∧ 0 ≤ (afterLoad {} file).timeScale ∧
      ∀ x, scaleIn? file = some x → isScale x = true →
        ∃ v, rational? x = some v ∧ v < narrowLimit := by
  intro file
  obtain ⟨hrate, hnonneg, hiff⟩ := usable_afterLoad isUsable_default file
  have hfinite : (afterLoad {} file).timeScale.isFinite = true := by decide +kernel
  exact ⟨isUsable_default, hrate, hnonneg, hiff.mp ⟨hrate, hfinite, hnonneg⟩⟩

/-- A number of 64 bits can be too large for a time scale that is usable. -/
theorem not_isUsable_afterLoad_of_large : IsUsable {} ∧
    ¬ (afterLoad {} (.ok "[runner]\ntime_scale=1e39\n".toUTF8)).IsUsable := by
  refine ⟨isUsable_default, fun h => ?_⟩
  have hinfinite :
      (afterLoad {} (.ok "[runner]\ntime_scale=1e39\n".toUTF8)).timeScale.isFinite = false := by
    decide +kernel
  exact Bool.false_ne_true (hinfinite.symm.trans h.scale_finite)

end Settings

end SpriteStage
