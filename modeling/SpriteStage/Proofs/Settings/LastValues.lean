import SpriteStage.Proofs.Settings.Loading
import SpriteStage.Proofs.Text

/-!
# Settings by their last values

What loading takes over, told line by line. A file is taken over as a whole or not at all, and each
setting depends only on what it was and on the last value that the file has for its own key. The
module introduces:

* `Ini.says?`: what a line says, and `Ini.IsFaulty`: the lines that cannot be read;
* `Ini.Gives` and `Ini.LastGives`: the values of a key under a header, and the last of them;
* `Ini.read_eq_ok_iff` and `Ini.value?_eq_some_iff`: a text is read exactly if each of its lines
  can be, and the value that is looked up is the last one;
* `Setting`: the settings that a file can give, each with its own header, key and form of value;
* `FileSays`: what the lines of a file say, which is nothing if it cannot be read;
* `Settings.Takes`: what each setting is after loading.

The main statement is `Settings.load_all_or_nothing`.
-/

namespace SpriteStage

/-! ## Lines -/

namespace Ini

/-- What a line says, if it can be read. -/
def says? (line : List Char) : Option Statement := (statement 0 line).toOption

/-- The header that a line states, if it states one. -/
def Statement.header? : Statement → Option (List Char)
  | header name => some name
  | nothing | key _ _ => none

variable {line : List Char} {lines : List (List Char)} {said : Statement}
  {statements : List Statement} {entries : List Entry} {start header key : List Char}
  {value : Option (List Char)}

/-- The number of a line counts only in messages. -/
theorem statement_eq_ok_iff {number : Nat} :
    statement number line = .ok said ↔ says? line = some said := by
  rw [says?, statement, statement]
  split
  · simp [Except.toOption]
  · split <;> simp [Except.toOption]
  · split
    · simp [Except.toOption]
    · split <;> simp [Except.toOption]

/-- Without its comment, the line opens a header and has no closing bracket, or it starts with a
separator. -/
def IsFaulty (line : List Char) : Prop :=
  (∃ rest, content line = '[' :: rest ∧ ']' ∉ rest) ∨
    ∃ c rest, content line = c :: rest ∧ isSeparator c = true

/-- A line says nothing exactly if it is faulty. -/
theorem says?_eq_none_iff : says? line = none ↔ IsFaulty line := by
  have hopening : isSeparator '[' = false := by decide
  rw [says?, statement, IsFaulty]
  split
  · next hcontent => simp [hcontent, Except.toOption]
  · next rest hcontent =>
    have hclosing : rest.reverse.dropWhile (· ≠ ']') = [] ↔ ']' ∉ rest := by
      simp only [List.dropWhile_eq_nil_iff, List.mem_reverse, ne_eq, decide_not,
        Bool.not_eq_true', decide_eq_false_iff_not]
      exact List.forall_mem_ne'
    rw [hcontent]
    split
    · next hnil => simp [Except.toOption, hclosing.mp hnil]
    · next hcons =>
      have hmem : ']' ∈ rest := by
        by_contra hnot
        rw [hclosing.mpr hnot] at hcons
        cases hcons
      simp [Except.toOption, hmem, hopening]
  · next hne hbracket =>
    obtain ⟨c, rest, hcontent⟩ := List.exists_cons_of_ne_nil hne
    have hc : c ≠ '[' := by
      rintro rfl
      exact hbracket rest hcontent
    have hblank : isBlank c = false := isBlank_of_trimBlanks_eq_cons hcontent
    rw [hcontent]
    cases hseparator : isSeparator c with
    | true => simp [Text.cutAt?, hseparator, Except.toOption, trimBlanks_eq_nil_iff]
    | false =>
      -- The key begins with the first character of the line, which is no blank.
      have hkey (key : List Char) : (trimBlanks (c :: key)).isEmpty = false := by
        rw [List.isEmpty_eq_false_iff, ne_eq, trimBlanks_eq_nil_iff]
        exact fun hall => Bool.eq_false_iff.mp hblank (hall c (.head _))
      rw [Text.cutAt?_cons_of_neg hseparator]
      cases Text.cutAt? isSeparator rest <;> simp [Except.toOption, hc, hseparator, hkey]

/-! ## Values of keys -/

/-- The header that the lines after these stand under, if they began under `start`. -/
def headerAfter (start : List Char) (statements : List Statement) : List Char :=
  (statements.filterMap Statement.header?).getLastD start

/-- Under the header, a line has the key with this value. -/
def Gives (start : List Char) (statements : List Statement) (header key : List Char)
    (value : Option (List Char)) : Prop :=
  ∃ before after, statements = before ++ .key key value :: after ∧
    headerAfter start before = header

/-- Under the header, a line has the key with this value, and none after it has the key. -/
def LastGives (start : List Char) (statements : List Statement) (header key : List Char)
    (value : Option (List Char)) : Prop :=
  ∃ before after, statements = before ++ .key key value :: after ∧
    headerAfter start before = header ∧ ∀ value', ¬ Gives header after header key value'

/-- The entries that lines state, if they began under `start`. -/
def entriesUnder (start : List Char) : List Statement → List Entry
  | [] => []
  | .nothing :: statements => entriesUnder start statements
  | .header header :: statements => entriesUnder header statements
  | .key key value :: statements => ⟨start, key, value⟩ :: entriesUnder start statements

theorem headerAfter_cons :
    headerAfter start (said :: statements) =
      headerAfter (said.header?.getD start) statements := by
  cases said with
  | header name => exact List.getLastD_cons
  | nothing | key => rfl

theorem entriesUnder_append (start : List Char) (before after : List Statement) :
    entriesUnder start (before ++ after) =
      entriesUnder start before ++ entriesUnder (headerAfter start before) after := by
  induction before generalizing start with
  | nil => rfl
  | cons said before ih =>
    rw [headerAfter_cons]
    cases said with
    | nothing | header => exact ih _
    | key key value => exact congrArg (_ :: ·) (ih _)

/-- Where an entry comes from. -/
theorem entriesUnder_eq_append_cons_iff {before after : List Entry} {entry : Entry} :
    entriesUnder start statements = before ++ entry :: after ↔
      ∃ before' after', statements = before' ++ .key entry.key entry.value :: after' ∧
        headerAfter start before' = entry.header ∧ entriesUnder start before' = before ∧
        entriesUnder entry.header after' = after := by
  constructor
  · intro h
    induction statements generalizing start before with
    | nil => simp [entriesUnder] at h
    | cons said statements ih =>
      cases said with
      | nothing | header =>
        obtain ⟨before', after', rfl, hheader, hbefore, hafter⟩ := ih h
        exact ⟨_ :: before', after', rfl, by rw [headerAfter_cons]; exact hheader, hbefore, hafter⟩
      | key key value =>
        rw [entriesUnder] at h
        cases before with
        | nil =>
          obtain ⟨rfl, hafter⟩ := List.cons.inj h
          exact ⟨[], statements, rfl, rfl, rfl, hafter⟩
        | cons first before =>
          obtain ⟨rfl, hrest⟩ := List.cons.inj h
          obtain ⟨before', after', rfl, hheader, hbefore, hafter⟩ := ih hrest
          exact ⟨_ :: before', after', rfl, by rw [headerAfter_cons]; exact hheader,
            congrArg (_ :: ·) hbefore, hafter⟩
  · rintro ⟨before', after', rfl, hheader, rfl, rfl⟩
    rw [entriesUnder_append, entriesUnder, hheader]

theorem gives_iff_mem : Gives start statements header key value ↔
    ⟨header, key, value⟩ ∈ entriesUnder start statements := by
  rw [List.mem_iff_append]
  simp only [entriesUnder_eq_append_cons_iff]
  constructor
  · rintro ⟨before, after, hsplit, hheader⟩
    exact ⟨_, _, before, after, hsplit, hheader, rfl, rfl⟩
  · rintro ⟨_, _, before, after, hsplit, hheader, -, -⟩
    exact ⟨before, after, hsplit, hheader⟩

/-- A look-up finds the last value that is given. -/
theorem value?_eq_some_iff {header key : String} {value : List Char} :
    value? (entriesUnder start statements) header key = some value ↔
      LastGives start statements header.toList key.toList (some value) := by
  rw [value?, Option.bind_eq_some_iff]
  simp only [List.find?_eq_some_iff_append]
  constructor
  · rintro ⟨⟨header', key', value'⟩, ⟨hmatch, later, earlier, hsplit, hlater⟩, rfl⟩
    obtain ⟨rfl, rfl⟩ : header' = header.toList ∧ key' = key.toList := by simpa using hmatch
    rw [← List.reverse_inj, List.reverse_reverse, List.reverse_append, List.reverse_cons,
      List.append_assoc, List.singleton_append] at hsplit
    obtain ⟨before, after, rfl, hheader, -, hafter⟩ := entriesUnder_eq_append_cons_iff.mp hsplit
    refine ⟨before, after, rfl, hheader, fun other hgives => ?_⟩
    rw [gives_iff_mem, hafter, List.mem_reverse] at hgives
    simpa using hlater _ hgives
  · rintro ⟨before, after, rfl, hheader, hlast⟩
    refine ⟨⟨header.toList, key.toList, some value⟩, ⟨by simp,
      (entriesUnder header.toList after).reverse, (entriesUnder start before).reverse, ?_, ?_⟩, rfl⟩
    · rw [entriesUnder_append, entriesUnder, hheader, List.reverse_append, List.reverse_cons,
        List.append_assoc, List.singleton_append]
    · rintro ⟨header', key', value'⟩ hmem
      rw [List.mem_reverse] at hmem
      by_contra hmatch
      obtain ⟨rfl, rfl⟩ : header' = header.toList ∧ key' = key.toList := by simpa using hmatch
      exact hlast _ (gives_iff_mem.mpr hmem)

/-! ## Reading -/

/-- A key and its value stand before the entries of the lines that follow. -/
theorem readLines_cons_of_key {number : Nat} {line key : List Char} {value : Option (List Char)}
    (h : statement number line = .ok (.key key value)) :
    readLines start number (line :: lines) =
      (readLines start (number + 1) lines).map (⟨start, key, value⟩ :: ·) := by
  rw [readLines, h]
  rfl

/-- Lines are read if each of them can be. -/
theorem readLines_eq_ok_iff {number : Nat} :
    readLines start number lines = .ok entries ↔
      ∃ statements, List.Forall₂ (says? · = some ·) lines statements ∧
        entriesUnder start statements = entries := by
  induction lines generalizing start number entries with
  | nil => simp [readLines, entriesUnder, eq_comm]
  | cons line lines ih =>
    cases hstatement : statement number line with
    | error fault =>
      rw [readLines, hstatement]
      refine iff_of_false (fun h => by cases h) ?_
      rintro ⟨_, hall, -⟩
      cases hall with
      | cons hsaid _ =>
        rw [← statement_eq_ok_iff, hstatement] at hsaid
        cases hsaid
    | ok said =>
      have hsaid : says? line = some said := statement_eq_ok_iff.mp hstatement
      have hrest : (∃ statements, List.Forall₂ (says? · = some ·) (line :: lines) statements ∧
            entriesUnder start statements = entries) ↔
          ∃ statements, List.Forall₂ (says? · = some ·) lines statements ∧
            entriesUnder start (said :: statements) = entries := by
        constructor
        · rintro ⟨_, hall, hentries⟩
          cases hall with
          | cons hfirst hall =>
            obtain rfl := Option.some.inj (hsaid.symm.trans hfirst)
            exact ⟨_, hall, hentries⟩
        · rintro ⟨statements, hall, hentries⟩
          exact ⟨_, .cons hsaid hall, hentries⟩
      rw [hrest]
      cases said with
      | nothing | header =>
        rw [readLines, hstatement]
        exact ih
      | key key value =>
        rw [readLines_cons_of_key hstatement]
        constructor
        · intro h
          cases hlines : readLines start (number + 1) lines with
          | error fault =>
            rw [hlines] at h
            cases h
          | ok entries' =>
            obtain ⟨statements, hall, rfl⟩ := ih.mp hlines
            rw [hlines] at h
            exact ⟨statements, hall, Except.ok.inj h⟩
        · rintro ⟨statements, hall, rfl⟩
          rw [ih.mpr ⟨statements, hall, rfl⟩]
          rfl

/-- A text is read if all its lines can be, and its first lines stand under the header `default`. -/
theorem read_eq_ok_iff {text : List Char} :
    read text = .ok entries ↔
      ∃ statements, List.Forall₂ (says? · = some ·) (Text.lines text) statements ∧
        entriesUnder "default".toList statements = entries :=
  readLines_eq_ok_iff

/-- Lines that can be read one by one can be read together. -/
theorem exists_forall₂_says?_iff :
    (∃ statements, List.Forall₂ (says? · = some ·) lines statements) ↔
      ∀ line ∈ lines, ¬ IsFaulty line := by
  simp only [← says?_eq_none_iff]
  constructor
  · rintro ⟨statements, hall⟩
    induction hall with
    | nil => exact List.forall_mem_nil _
    | cons hsaid _ ih => exact List.forall_mem_cons.mpr ⟨hsaid ▸ Option.some_ne_none _, ih⟩
  · intro h
    induction lines with
    | nil => exact ⟨[], .nil⟩
    | cons line lines ih =>
      obtain ⟨statements, hall⟩ := ih fun line hline => h line (.tail _ hline)
      obtain ⟨said, hsaid⟩ := Option.ne_none_iff_exists'.mp (h line (.head _))
      exact ⟨said :: statements, .cons hsaid hall⟩

end Ini

/-! ## Settings one by one -/

/-- The settings that a file can give. -/
inductive Setting where
  | starterSprite
  | followSprites
  | tickRate
  | timeScale

namespace Setting

/-- What a setting is. -/
def Value : Setting → Type
  | starterSprite | followSprites => Bool
  | tickRate => UInt32
  | timeScale => Float32

/-- The header that the setting stands under. -/
def header : Setting → String
  | starterSprite => "stage"
  | followSprites => "collision"
  | tickRate | timeScale => "runner"

/-- The key of the setting. -/
def key : Setting → String
  | starterSprite => "starter_sprite"
  | followSprites => "follow_sprites"
  | tickRate => "tick_hz"
  | timeScale => "time_scale"

/-- What the text of a value says, if it can be used. -/
def read? : (setting : Setting) → List Char → Option setting.Value
  | starterSprite | followSprites => readTruth?
  | tickRate => readRate?
  | timeScale => fun text => ((readNumber? text).filter isScale).map Float.narrow

/-- The setting among all. -/
def get : (setting : Setting) → Settings → setting.Value
  | starterSprite, settings => settings.starterSprite
  | followSprites, settings => settings.followSprites
  | tickRate, settings => settings.tickRate
  | timeScale, settings => settings.timeScale

section Texts

variable (text : List Char)

@[simp] theorem read?_starterSprite : starterSprite.read? text = readTruth? text := by rfl

@[simp] theorem read?_followSprites : followSprites.read? text = readTruth? text := by rfl

@[simp] theorem read?_tickRate : tickRate.read? text = readRate? text := by rfl

@[simp] theorem read?_timeScale :
    timeScale.read? text = ((readNumber? text).filter isScale).map Float.narrow := by rfl

end Texts

/-- The last line of its key gives the setting this value. -/
def HasLast (setting : Setting) (statements : List Ini.Statement) (value : List Char) : Prop :=
  Ini.LastGives "default".toList statements setting.header.toList setting.key.toList (some value)

/-- Each setting looks up its own key and stays as it is if there is nothing to use. -/
theorem get_adopt (setting : Setting) (settings : Settings) (entries : List Ini.Entry) :
    setting.get (settings.adopt entries).settings =
      ((Ini.value? entries setting.header setting.key).bind setting.read?).getD
        (setting.get settings) := by
  cases setting with
  | starterSprite | followSprites | tickRate => rfl
  | timeScale =>
    simp only [get, Settings.adopt, header, key]
    cases Ini.value? entries "runner" "time_scale" <;> rfl

end Setting

/-! ## Files -/

/-- The file can be read and is a text whose lines say this. -/
def FileSays (file : Except FileFault ByteArray) (statements : List Ini.Statement) : Prop :=
  ∃ bytes text, file = .ok bytes ∧ String.fromUTF8? bytes = some text ∧
    List.Forall₂ (Ini.says? · = some ·) (Text.lines text.toList) statements

variable {settings : Settings} {file : Except FileFault ByteArray} {loaded : Loaded}
  {statements : List Ini.Statement} {entries : List Ini.Entry}

/-- A file says one thing only. -/
theorem FileSays.unique {statements' : List Ini.Statement} (h : FileSays file statements)
    (h' : FileSays file statements') : statements = statements' := by
  obtain ⟨bytes, text, hfile, htext, hall⟩ := h
  obtain ⟨bytes', text', hfile', htext', hall'⟩ := h'
  obtain rfl : bytes = bytes' := Except.ok.inj (hfile.symm.trans hfile')
  obtain rfl : text = text' := Option.some.inj (htext.symm.trans htext')
  exact List.right_unique_forall₂' (fun _ _ _ h h' => Option.some.inj (h.symm.trans h')) hall hall'

theorem toOption_eq_some_iff {ε α : Type} {x : Except ε α} {a : α} :
    x.toOption = some a ↔ x = .ok a := by
  cases x <;> simp [Except.toOption]

theorem entriesIn?_eq_some_iff : entriesIn? file = some entries ↔
    ∃ statements, FileSays file statements ∧
      Ini.entriesUnder "default".toList statements = entries := by
  simp only [entriesIn?, Option.bind_eq_bind, Option.bind_eq_some_iff, toOption_eq_some_iff,
    Ini.read_eq_ok_iff, FileSays]
  constructor
  · rintro ⟨bytes, hfile, text, htext, statements, hall, hentries⟩
    exact ⟨statements, ⟨bytes, text, hfile, htext, hall⟩, hentries⟩
  · rintro ⟨statements, ⟨bytes, text, hfile, htext, hall⟩, hentries⟩
    exact ⟨bytes, hfile, text, htext, statements, hall, hentries⟩

namespace Settings

/-- Loading takes over what the lines of the file say. -/
theorem load_eq_ok_iff : settings.load file = .ok loaded ↔
    ∃ statements, FileSays file statements ∧
      settings.adopt (Ini.entriesUnder "default".toList statements) = loaded := by
  rw [← toOption_eq_some_iff, toOption_load, Option.map_eq_some_iff]
  simp only [entriesIn?_eq_some_iff]
  constructor
  · rintro ⟨_, ⟨statements, hsays, rfl⟩, hloaded⟩
    exact ⟨statements, hsays, hloaded⟩
  · rintro ⟨statements, hsays, hloaded⟩
    exact ⟨_, ⟨statements, hsays, rfl⟩, hloaded⟩

/-- Loading fails if there is no text to read, or a line of it cannot be read. -/
theorem load_fails_iff : (∃ fault, settings.load file = .error fault) ↔
    ∀ bytes text, file = .ok bytes → String.fromUTF8? bytes = some text →
      ∃ line ∈ Text.lines text.toList, Ini.IsFaulty line := by
  have hfails : (∃ fault, settings.load file = .error fault) ↔
      ¬ ∃ statements, FileSays file statements := by
    cases hload : settings.load file with
    | error fault =>
      refine iff_of_true ⟨fault, rfl⟩ ?_
      rintro ⟨statements, hsays⟩
      rw [load_eq_ok_iff.mpr ⟨statements, hsays, rfl⟩] at hload
      cases hload
    | ok loaded =>
      obtain ⟨statements, hsays, -⟩ := load_eq_ok_iff.mp hload
      exact iff_of_false (fun ⟨_, h⟩ => by cases h) fun h => h ⟨statements, hsays⟩
  rw [hfails]
  constructor
  · intro hnone bytes text hfile htext
    by_contra hall
    push Not at hall
    obtain ⟨statements, hsays⟩ := Ini.exists_forall₂_says?_iff.mpr hall
    exact hnone ⟨statements, bytes, text, hfile, htext, hsays⟩
  · rintro hfaulty ⟨statements, bytes, text, hfile, htext, hsays⟩
    obtain ⟨line, hline, hline'⟩ := hfaulty bytes text hfile htext
    exact Ini.exists_forall₂_says?_iff.mp ⟨statements, hsays⟩ line hline hline'

end Settings

/-! ## Main statement -/

/-- A number of 64 bits is held between 1 and the greatest word of 32 bits. -/
theorem exists_readRate?_eq {text : List Char} {n : Nat} (h : Text.natural? text = some n)
    (hn : n < 2 ^ 64) :
    ∃ rate, readRate? text = some rate ∧ rate.toNat = max 1 (min n (2 ^ 32 - 1)) := by
  refine ⟨_, by rw [readRate?, h]; exact if_pos hn, ?_⟩
  have hsize : UInt32.size = 2 ^ 32 := rfl
  rw [UInt32.toNat_ofNat', hsize, Nat.mod_eq_of_lt (by omega)]

/-- The second settings come from the first ones by what lines say: the last value of a setting
decides it if that can be used, and otherwise it stays as it is. -/
def Settings.Takes (settings : Settings) (statements : List Ini.Statement) (settings' : Settings) :
    Prop :=
  ∀ setting : Setting,
    (∀ value a, setting.HasLast statements value → setting.read? value = some a →
      setting.get settings' = a) ∧
    ((∀ value, setting.HasLast statements value → setting.read? value = none) →
      setting.get settings' = setting.get settings)

theorem Settings.takes_adopt (settings : Settings) (statements : List Ini.Statement) :
    settings.Takes statements
      (settings.adopt (Ini.entriesUnder "default".toList statements)).settings := by
  intro setting
  have hget := setting.get_adopt settings (Ini.entriesUnder "default".toList statements)
  constructor
  · intro value a hlast hread
    rw [hget, Ini.value?_eq_some_iff.mpr hlast, Option.bind_some, hread, Option.getD_some]
  · intro hnone
    rw [hget]
    cases hvalue : Ini.value? (Ini.entriesUnder "default".toList statements) setting.header
      setting.key with
    | none => rfl
    | some value => rw [Option.bind_some, hnone value (Ini.value?_eq_some_iff.mp hvalue)]; rfl

/-- A setting depends on no more than what it was and its own last value. -/
theorem Setting.get_adopt_congr (setting : Setting) {settings' : Settings}
    {statements' : List Ini.Statement} (hstart : setting.get settings = setting.get settings')
    (hlast : ∀ value, setting.HasLast statements value ↔ setting.HasLast statements' value) :
    setting.get (settings.adopt (Ini.entriesUnder "default".toList statements)).settings =
      setting.get (settings'.adopt (Ini.entriesUnder "default".toList statements')).settings := by
  have hvalue : Ini.value? (Ini.entriesUnder "default".toList statements) setting.header
        setting.key =
      Ini.value? (Ini.entriesUnder "default".toList statements') setting.header setting.key := by
    ext value
    rw [Ini.value?_eq_some_iff, Ini.value?_eq_some_iff]
    exact hlast value
  rw [get_adopt, get_adopt, hvalue, hstart]

/-- A file is taken over as a whole or not at all: loading fails if there is no text, or any of its
lines cannot be read, and then nothing changes. Otherwise each setting depends on what it was and on
the last value of its own key alone, so that two files that agree in these lead to the same value,
whatever else they say. A rate that is a number of 64 bits is held in the range from 1 to the
greatest word of 32 bits. -/
theorem Settings.load_all_or_nothing (settings : Settings) (file : Except FileFault ByteArray) :
    ((∃ fault, settings.load file = .error fault) ↔
      ∀ bytes text, file = .ok bytes → String.fromUTF8? bytes = some text →
        ∃ line ∈ Text.lines text.toList, Ini.IsFaulty line) ∧
    ((∃ fault, settings.load file = .error fault) → settings.afterLoad file = settings) ∧
    ∀ loaded, settings.load file = .ok loaded → settings.afterLoad file = loaded.settings ∧
      ∃ statements, FileSays file statements ∧
        settings.Takes statements loaded.settings ∧
        (∀ value n, Setting.tickRate.HasLast statements value → Text.natural? value = some n →
          n < 2 ^ 64 → loaded.settings.tickRate.toNat = max 1 (min n (2 ^ 32 - 1))) ∧
        ∀ (settings' : Settings) file' loaded' statements', settings'.load file' = .ok loaded' →
          FileSays file' statements' → ∀ setting : Setting,
            setting.get settings = setting.get settings' →
            (∀ value, setting.HasLast statements value ↔ setting.HasLast statements' value) →
            setting.get loaded.settings = setting.get loaded'.settings := by
  refine ⟨load_fails_iff, ?_, ?_⟩
  · rintro ⟨fault, hload⟩
    rw [afterLoad, hload]
  · intro loaded hload
    obtain ⟨statements, hsays, rfl⟩ := load_eq_ok_iff.mp hload
    have htakes := settings.takes_adopt statements
    refine ⟨by rw [afterLoad, hload], statements, hsays, htakes, ?_, ?_⟩
    · intro value n hlast hnumber hn
      obtain ⟨rate, hrate, hclamped⟩ := exists_readRate?_eq hnumber hn
      have hstored := (htakes .tickRate).1 value rate hlast hrate
      rw [← hclamped, ← hstored]
      rfl
    · intro settings' file' loaded' statements' hload' hsays' setting hstart hlast
      obtain ⟨_, hsays'', rfl⟩ := load_eq_ok_iff.mp hload'
      rw [← hsays'.unique hsays'']
      exact setting.get_adopt_congr hstart hlast

end SpriteStage
