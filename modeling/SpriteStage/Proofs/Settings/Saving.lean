import SpriteStage.Proofs.Decimal.RoundTrip
import SpriteStage.Proofs.Settings.Writing

/-!
# Saved settings

Settings that were saved are loaded again as they were, with three exceptions: a rate of zero
becomes one, a time scale that cannot be one is passed over, and one single time scale becomes the
number next to it, because its text is rounded twice. The module introduces:

* `Setting.text`: how each setting is written;
* `exists_load_eq_ok`: the lines of saved settings can be loaded in any order, and each setting is
  looked up as it was written;
* `Settings.withSaved`: what settings become when saved ones are loaded into them.

The main statement is `Settings.load_saved`.
-/

namespace SpriteStage

open Ini

/-! ## Texts of settings -/

namespace Setting

/-- How the setting is written. -/
def text : Setting → Settings → String
  | starterSprite, settings => toString settings.starterSprite
  | followSprites, settings => toString settings.followSprites
  | tickRate, settings => toString settings.tickRate.toNat
  | timeScale, settings => settings.timeScale.plain

/-- The settings in the order in which they are written. -/
def all : List Setting := [starterSprite, followSprites, tickRate, timeScale]

theorem mem_all (setting : Setting) : setting ∈ all := by
  cases setting <;> simp [all]

/-- The entry that is written for the setting. -/
def entry (settings : Settings) (setting : Setting) : Ini.Entry :=
  ⟨setting.header.toList, setting.key.toList, some (setting.text settings).toList⟩

/-- No two settings have the same key. -/
theorem eq_of_key_eq {setting setting' : Setting} (h : setting.key.toList = setting'.key.toList) :
    setting = setting' := by
  revert h
  cases setting <;> cases setting' <;>
    first | exact fun _ => rfl | exact fun h => absurd h (by decide)

end Setting

variable {settings saved : Settings} {groups : List Ini.Group}

theorem entries_groups (settings : Settings) :
    settings.groups.flatMap Group.entries = Setting.all.map (Setting.entry settings) :=
  rfl

/-- Digits are no blanks and start no comment. -/
theorem isBare_of_isDigit {text : List Char} (h : ∀ c ∈ text, c.isDigit = true) : IsBare text := by
  intro c hc
  have hdigit := h c hc
  refine ⟨isBlank_of_isDecimalDigit (isDecimalDigit_of_isDigit hdigit), ?_⟩
  have hsemicolon : c ≠ ';' := by
    rintro rfl
    cases hdigit
  have hnumber : c ≠ '#' := by
    rintro rfl
    cases hdigit
  simp [isComment, hsemicolon, hnumber]

theorem isBare_plain (x : Float32) : IsBare x.plain.toList := by
  have hsign (sign : Float.Model.UnpackedFloat.Sign) : IsBare (signText sign).toList := by
    cases sign <;> decide
  rw [Float32.plain]
  cases x.toModel.unpack with
  | notANumber => decide
  | infinity sign | zero sign =>
    rw [plainText, String.toList_append]
    exact (hsign sign).append (by decide)
  | finite sign m e hpos =>
    rw [plainText, String.toList_append]
    refine (hsign sign).append fun c hc => ?_
    rcases isDigit_or_eq_of_mem_plain hc with hdigit | rfl
    · exact isBare_of_isDigit (List.forall_mem_singleton.mpr hdigit) c (.head _)
    · decide

theorem isBare_text (setting : Setting) (settings : Settings) :
    IsBare (setting.text settings).toList := by
  have htruth (truth : Bool) : IsBare (toString truth).toList := by
    cases truth <;> decide
  cases setting with
  | starterSprite => exact htruth settings.starterSprite
  | followSprites => exact htruth settings.followSprites
  | tickRate =>
    rw [Setting.text, Nat.toString_eq_ofList_toDigits, String.toList_ofList]
    exact isBare_of_isDigit fun c hc => Nat.isDigit_of_mem_toDigits (by decide) (by decide) hc
  | timeScale => exact isBare_plain settings.timeScale

theorem isPlain_of_mem_groups (settings : Settings) : ∀ group ∈ settings.groups, group.IsPlain := by
  have hkey (setting : Setting) : IsName setting.key.toList := by
    cases setting <;> decide
  have hplain {header : String} (hheader : IsName header.toList) (members : List Setting) :
      Group.IsPlain ⟨header, members.map fun setting => (setting.key, setting.text settings)⟩ := by
    refine ⟨hheader, fun pair hpair => ?_, fun pair hpair => ?_⟩
    all_goals obtain ⟨setting, -, rfl⟩ := List.mem_map.mp hpair
    · exact hkey setting
    · exact isBare_text setting settings
  exact List.forall_mem_cons.mpr ⟨hplain (by decide) [.starterSprite],
    List.forall_mem_cons.mpr ⟨hplain (by decide) [.followSprites],
      List.forall_mem_singleton.mpr (hplain (by decide) [.tickRate, .timeScale])⟩⟩

/-- Whatever their order, the lines of saved settings can be loaded. Each setting is looked up as it
was written. -/
theorem exists_load_eq_ok (settings : Settings) (h : Reordered saved.groups groups) :
    ∃ loaded, settings.load (.ok (write groups).toUTF8) = .ok loaded ∧
      ∀ setting : Setting, setting.get loaded.settings =
        (setting.read? (setting.text saved).toList).getD (setting.get settings) := by
  have hplain := h.isPlain (isPlain_of_mem_groups saved)
  have htext : String.fromUTF8? (write groups).toUTF8 = some (write groups) :=
    dif_pos (write groups).isValidUTF8
  have hentries : entriesIn? (.ok (write groups).toUTF8) =
      some (groups.flatMap Group.entries) := by
    rw [entriesIn?_ok, htext, Option.bind_some, read_write hplain]
    rfl
  refine ⟨settings.adopt (groups.flatMap Group.entries), ?_, fun setting => ?_⟩
  · rw [← toOption_eq_some_iff, Settings.toOption_load, hentries, Option.map_some]
  -- Up to their order, the entries are those of the settings, and keys tell them apart.
  have hmem {entry : Entry} : entry ∈ groups.flatMap Group.entries ↔
      ∃ setting : Setting, setting.entry saved = entry := by
    rw [← h.perm_entries.mem_iff, entries_groups, List.mem_map]
    exact exists_congr fun setting => and_iff_right setting.mem_all
  have hvalue : value? (groups.flatMap Group.entries) setting.header setting.key =
      some (setting.text saved).toList := by
    refine value?_eq_of_unique (hmem.mpr ⟨setting, rfl⟩) fun entry hentry _ hkey => ?_
    obtain ⟨setting', rfl⟩ := hmem.mp hentry
    rw [Setting.eq_of_key_eq hkey]
    rfl
  rw [setting.get_adopt, hvalue, Option.bind_some]

/-! ## Main statement -/

theorem readTruth?_toString (truth : Bool) : readTruth? (toString truth).toList = some truth := by
  cases truth <;> decide

/-- A rate is read as it is written, but for zero, which counts as one. -/
theorem readRate?_toString (rate : UInt32) :
    readRate? (toString rate.toNat).toList = some (max 1 rate) := by
  have hlt : rate.toNat < 2 ^ 32 := rate.toNat_lt
  have hnatural : Text.natural? (toString rate.toNat).toList = some rate.toNat := by
    rw [Nat.toString_eq_ofList_toDigits, String.toList_ofList]
    exact Text.natural?_toDigits rate.toNat
  obtain ⟨rate', hread, hvalue⟩ := exists_readRate?_eq hnatural (by omega)
  have hmax : rate' = max 1 rate := by
    rw [← UInt32.toNat_inj, hvalue]
    by_cases hle : 1 ≤ rate
    · have hrate : max 1 rate = rate := if_pos hle
      have : 1 ≤ rate.toNat := UInt32.le_iff_toNat_le.mp hle
      rw [hrate]
      omega
    · have hrate : max 1 rate = 1 := if_neg hle
      have : ¬ 1 ≤ rate.toNat := fun h => hle (UInt32.le_iff_toNat_le.mpr h)
      have hone : (1 : UInt32).toNat = 1 := rfl
      rw [hrate]
      omega
  rw [hread, hmax]

/-- A time scale is read as it is written if it can be one, with one exception. -/
theorem readScale?_plain (x : Float32) :
    Setting.timeScale.read? x.plain.toList =
      if x = doublyRounded then some (Float32.ofBits 0x15ae43fe)
      else if x.isFinite = true ∧ 0 ≤ x then some x else none := by
  split
  · next heq =>
    have hread : ((readNumber? doublyRounded.plain.toList).filter isScale).map Float.narrow =
        some (Float32.ofBits 0x15ae43fe) := by decide +kernel
    rw [heq, Setting.read?_timeScale]
    exact hread
  · next hne =>
    obtain ⟨y, hread, hscale, hnarrow⟩ := exists_readNumber?_plain x
    rw [Setting.read?_timeScale, hread]
    by_cases h : x.isFinite = true ∧ 0 ≤ x
    · have hisScale := hscale.mpr h
      rw [if_pos h, Option.filter_some_pos hisScale, Option.map_some, hnarrow hisScale hne]
    · have hrefused : isScale y = false :=
        Bool.eq_false_iff.mpr fun hisScale => h (hscale.mp hisScale)
      rw [if_neg h, Option.filter_some_neg hrefused, Option.map_none]

namespace Settings

/-- Settings are equal if each of them is. -/
theorem eq_of_get_eq {settings settings' : Settings}
    (h : ∀ setting : Setting, setting.get settings = setting.get settings') :
    settings = settings' := by
  have hstarter : settings.starterSprite = settings'.starterSprite := h .starterSprite
  have hfollow : settings.followSprites = settings'.followSprites := h .followSprites
  have hrate : settings.tickRate = settings'.tickRate := h .tickRate
  have hscale : settings.timeScale = settings'.timeScale := h .timeScale
  cases settings
  cases settings'
  simp only at hstarter hfollow hrate hscale
  rw [hstarter, hfollow, hrate, hscale]

/-- What settings become when others were saved and are loaded into them. A rate of zero becomes
one, a time scale that cannot be one is passed over, and the exception among the time scales becomes
the number next to it. -/
def withSaved (settings saved : Settings) : Settings where
  starterSprite := saved.starterSprite
  followSprites := saved.followSprites
  tickRate := max 1 saved.tickRate
  timeScale :=
    if saved.timeScale = doublyRounded then Float32.ofBits 0x15ae43fe
    else if saved.timeScale.isFinite = true ∧ 0 ≤ saved.timeScale then saved.timeScale
    else settings.timeScale

theorem getD_read?_text (setting : Setting) (settings saved : Settings) :
    (setting.read? (setting.text saved).toList).getD (setting.get settings) =
      setting.get (settings.withSaved saved) := by
  cases setting with
  | starterSprite =>
    rw [Setting.read?_starterSprite, Setting.text, readTruth?_toString]
    rfl
  | followSprites =>
    rw [Setting.read?_followSprites, Setting.text, readTruth?_toString]
    rfl
  | tickRate =>
    rw [Setting.read?_tickRate, Setting.text, readRate?_toString]
    rfl
  | timeScale =>
    rw [Setting.text, readScale?_plain, Setting.get, Setting.get, withSaved]
    split
    · rfl
    · split <;> rfl

/-- Usable settings become what was saved, with one exception. -/
theorem withSaved_eq_iff (h : saved.IsUsable) :
    settings.withSaved saved = saved ↔ saved.timeScale ≠ doublyRounded := by
  constructor
  · intro hsame heq
    have hscale : Float32.ofBits 0x15ae43fe = saved.timeScale :=
      (if_pos heq).symm.trans (congrArg timeScale hsame)
    rw [heq] at hscale
    exact absurd hscale (by decide +kernel)
  · intro hne
    have hrate : max 1 saved.tickRate = saved.tickRate := if_pos h.rate_pos
    rw [withSaved, hrate, if_neg hne, if_pos ⟨h.scale_finite, h.scale_nonneg⟩]

/-- Let settings be saved, with the lines of the file in any order, and loaded into others. Then
loading succeeds and takes over what was saved. All settings that are usable come back as they were,
but for one single time scale. -/
theorem load_saved (settings : Settings) (h : Reordered saved.groups groups) :
    ∃ loaded, settings.load (.ok (write groups).toUTF8) = .ok loaded ∧
      loaded.settings = settings.withSaved saved ∧
      (saved.IsUsable → (loaded.settings = saved ↔ saved.timeScale ≠ doublyRounded)) := by
  obtain ⟨loaded, hload, hget⟩ := exists_load_eq_ok settings h
  have hsettings : loaded.settings = settings.withSaved saved := eq_of_get_eq fun setting =>
    (hget setting).trans (getD_read?_text setting settings saved)
  exact ⟨loaded, hload, hsettings, fun husable => hsettings ▸ withSaved_eq_iff husable⟩

/-- Saved with all lines in the reverse order, settings come back as they were. -/
theorem load_saved_backwards :
    let saved : Settings := ⟨false, true, 30, 0.5⟩
    let groups : List Group :=
      saved.groups.reverse.map fun group => ⟨group.header, group.values.reverse⟩
    Reordered saved.groups groups ∧ saved.IsUsable ∧
      ∃ loaded, load {} (.ok (write groups).toUTF8) = .ok loaded ∧ loaded.settings = saved := by
  intro saved groups
  have hreordered : Reordered saved.groups groups :=
    ⟨saved.groups.reverse, saved.groups.reverse_perm, List.forall₂_map_right_iff.mpr
      (List.forall₂_same.mpr fun group _ => ⟨rfl, group.values.reverse_perm.symm⟩)⟩
  have husable : saved.IsUsable := ⟨by decide, by decide +kernel, by decide +kernel⟩
  obtain ⟨loaded, hload, -, hsame⟩ := load_saved {} hreordered
  exact ⟨hreordered, husable, loaded, hload, (hsame husable).mpr (by decide +kernel)⟩

/-- The time scale `doublyRounded` does not come back as it was saved. -/
theorem not_load_saved_doublyRounded :
    let saved : Settings := { timeScale := doublyRounded }
    saved.IsUsable ∧
      ¬ ∃ loaded, load {} (.ok saved.text.toUTF8) = .ok loaded ∧ loaded.settings = saved := by
  intro saved
  refine ⟨⟨by decide, by decide +kernel, by decide +kernel⟩, ?_⟩
  rintro ⟨loaded, hload, hsame⟩
  obtain ⟨loaded', hload', hget⟩ := exists_load_eq_ok {} (Reordered.refl saved.groups)
  obtain rfl := Except.ok.inj (hload.symm.trans hload')
  have hscale : loaded.settings.timeScale = (withSaved {} saved).timeScale :=
    (hget .timeScale).trans (getD_read?_text .timeScale {} saved)
  rw [hsame] at hscale
  exact absurd hscale (by decide +kernel)

end Settings

end SpriteStage
