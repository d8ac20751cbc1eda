import SpriteStage.Proofs.Settings.LastValues

/-!
# Written INI files

A text that is written from groups is read as their entries, in whatever order the groups and their
keys come. The module introduces:

* `Ini.IsBare` and `Ini.IsName`: texts that a line keeps as they are;
* `Ini.Group.IsPlain`: groups of such texts, of which each line says what it should;
* `Ini.Reordered`: the same groups in any order, with their keys in any order.

The main statements are `Ini.read_write` and `Ini.Reordered.perm_entries`.
-/

namespace SpriteStage

namespace Ini

variable {text line header key value : List Char}

/-- The text has no blanks and starts no comment. -/
def IsBare (text : List Char) : Prop := ∀ c ∈ text, isBlank c = false ∧ isComment c = false

/-- The text can be the name of a header or a key: it is not empty, and nothing in it is folded,
separates a key from its value or opens a header. -/
structure IsName (text : List Char) : Prop where
  bare : IsBare text
  ne_nil : text ≠ []
  plain : ∀ c ∈ text, fold c = c ∧ isSeparator c = false ∧ c ≠ '['

instance (text : List Char) : Decidable (IsBare text) := List.decidableBAll _ text

instance (text : List Char) : Decidable (IsName text) :=
  have : Decidable (∀ c ∈ text, fold c = c ∧ isSeparator c = false ∧ c ≠ '[') :=
    List.decidableBAll _ text
  decidable_of_iff
    (IsBare text ∧ text ≠ [] ∧ ∀ c ∈ text, fold c = c ∧ isSeparator c = false ∧ c ≠ '[')
    ⟨fun ⟨hbare, hne, hplain⟩ => ⟨hbare, hne, hplain⟩, fun h => ⟨h.bare, h.ne_nil, h.plain⟩⟩

theorem IsBare.trimBlanks_eq (h : IsBare text) : trimBlanks text = text :=
  trimBlanks_eq_self fun c hc => (h c hc).1

theorem IsName.name_eq (h : IsName text) : name text = text := by
  rw [name, h.bare.trimBlanks_eq, List.map_congr_left fun c hc => (h.plain c hc).1, List.map_id']

/-- Nothing is left out of a bare line. -/
theorem IsBare.content_eq (h : IsBare line) : content line = line := by
  rw [content, h.trimBlanks_eq, List.takeWhile_eq_self_iff.mpr, h.trimBlanks_eq]
  intro c hc
  rw [(h c hc).2, Bool.not_false]

theorem IsBare.append (h : IsBare text) (h' : IsBare line) : IsBare (text ++ line) :=
  List.forall_mem_append.mpr ⟨h, h'⟩

theorem IsBare.cons {c : Char} (hc : isBlank c = false ∧ isComment c = false) (h : IsBare text) :
    IsBare (c :: text) :=
  List.forall_mem_cons.mpr ⟨hc, h⟩

/-- A bare text is a single line. -/
theorem IsBare.lineFeed_notMem (h : IsBare text) : '\n' ∉ text := fun hmem =>
  absurd (h _ hmem).1 (by decide)

theorem isBare_header (h : IsName header) : IsBare ('[' :: header ++ [']']) :=
  .cons (by decide) (h.bare.append (by decide))

theorem isBare_key (hkey : IsName key) (hvalue : IsBare value) : IsBare (key ++ '=' :: value) :=
  hkey.bare.append (.cons (by decide) hvalue)

/-- A name in brackets is a header. -/
theorem says?_header (h : IsName header) :
    says? ('[' :: header ++ [']']) = some (.header header) := by
  rw [says?, statement, (isBare_header h).content_eq]
  simp [h.name_eq, Except.toOption]

/-- A name and a value, joined by an equals sign, are a key with its value. -/
theorem says?_key (hkey : IsName key) (hvalue : IsBare value) :
    says? (key ++ '=' :: value) = some (.key key (some value)) := by
  have hbare := (isBare_key hkey hvalue).content_eq
  have hcut : Text.cutAt? isSeparator (key ++ '=' :: value) = some (key, value) :=
    Text.cutAt?_append (fun c hc => (hkey.plain c hc).2.1) rfl
  obtain ⟨c, rest, rfl⟩ := List.exists_cons_of_ne_nil hkey.ne_nil
  have hbracket : c ≠ '[' := (hkey.plain c (.head _)).2.2
  have hfilled : (trimBlanks (c :: rest)).isEmpty = false := by rw [hkey.bare.trimBlanks_eq]; rfl
  rw [says?, statement, hbare]
  split
  · next hnil => cases hnil
  · next heq => exact absurd (List.cons.inj heq).1 hbracket
  · rw [hcut]
    simp [hfilled, hkey.name_eq, hvalue.trimBlanks_eq, Except.toOption]

/-! ## Written texts -/

/-- What the lines of a group say. -/
def Group.statements (group : Group) : List Statement :=
  .header group.header.toList ::
    group.values.map fun (key, value) => .key key.toList (some value.toList)

/-- The entries of a group. -/
def Group.entries (group : Group) : List Entry :=
  group.values.map fun (key, value) => ⟨group.header.toList, key.toList, some value.toList⟩

/-- Lines can be told apart and say what they should. -/
structure Group.IsPlain (group : Group) : Prop where
  header : IsName group.header.toList
  key : ∀ pair ∈ group.values, IsName pair.1.toList
  value : ∀ pair ∈ group.values, IsBare pair.2.toList

variable {group : Group} {groups : List Group}

theorem forall₂_says?_group (h : group.IsPlain) :
    List.Forall₂ (says? · = some ·) (group.lines.map String.toList) group.statements := by
  rw [Group.lines, Group.statements, List.map_cons, List.map_map]
  refine .cons ?_ ?_
  · simpa using says?_header h.header
  · rw [List.forall₂_map_left_iff, List.forall₂_map_right_iff, List.forall₂_same]
    intro pair hpair
    simpa using says?_key (h.key pair hpair) (h.value pair hpair)

theorem isBare_of_mem_lines (h : group.IsPlain) {line : String} (hline : line ∈ group.lines) :
    IsBare line.toList := by
  rcases List.mem_cons.mp hline with rfl | hline
  · simpa using isBare_header h.header
  · obtain ⟨pair, hpair, rfl⟩ := List.mem_map.mp hline
    simpa using isBare_key (h.key pair hpair) (h.value pair hpair)

/-- A written text says what its groups say. -/
theorem forall₂_says?_write (h : ∀ group ∈ groups, group.IsPlain) :
    List.Forall₂ (says? · = some ·) (Text.lines (write groups).toList)
      (groups.flatMap Group.statements ++ [.nothing]) := by
  have hlines : ∀ line ∈ groups.flatMap Group.lines, '\n' ∉ line.toList := by
    intro line hline
    obtain ⟨group, hgroup, hline⟩ := List.mem_flatMap.mp hline
    exact (isBare_of_mem_lines (h group hgroup) hline).lineFeed_notMem
  rw [write, Text.lines_join, Text.flatMap_lines hlines]
  refine List.rel_append ?_ (.cons rfl .nil)
  induction groups with
  | nil => exact .nil
  | cons group groups ih =>
    rw [List.forall_mem_cons] at h
    rw [List.flatMap_cons, List.map_append, List.flatMap_cons]
    rw [List.flatMap_cons, List.forall_mem_append] at hlines
    exact List.rel_append (forall₂_says?_group h.1) (ih h.2 hlines.2)

theorem entriesUnder_statements (start : List Char) (group : Group) :
    entriesUnder start group.statements = group.entries := by
  rw [Group.statements, Group.entries, entriesUnder]
  induction group.values with
  | nil => rfl
  | cons pair values ih => exact congrArg (_ :: ·) ih

theorem entriesUnder_flatMap_statements (start : List Char) (groups : List Group) :
    entriesUnder start (groups.flatMap Group.statements ++ [.nothing]) =
      groups.flatMap Group.entries := by
  -- Each group has its own header, so it does not count which one it starts under.
  induction groups generalizing start with
  | nil => rfl
  | cons group groups ih =>
    rw [List.flatMap_cons, List.append_assoc, entriesUnder_append, entriesUnder_statements, ih,
      List.flatMap_cons]

/-- A written text is read as the entries of its groups. -/
theorem read_write (h : ∀ group ∈ groups, group.IsPlain) :
    read (write groups).toList = .ok (groups.flatMap Group.entries) :=
  read_eq_ok_iff.mpr ⟨_, forall₂_says?_write h, entriesUnder_flatMap_statements _ groups⟩

/-- A value is found if its key has no other under the header. -/
theorem value?_eq_of_unique {entries : List Entry} {header key : String} {value : List Char}
    (hmem : ⟨header.toList, key.toList, some value⟩ ∈ entries)
    (hunique : ∀ entry ∈ entries, entry.header = header.toList → entry.key = key.toList →
      entry.value = some value) : value? entries header key = some value := by
  rw [value?]
  cases hfound : entries.reverse.find? fun entry =>
      entry.header = header.toList && entry.key = key.toList with
  | none =>
    have := List.find?_eq_none.mp hfound _ (List.mem_reverse.mpr hmem)
    simp at this
  | some entry =>
    have hmatch := List.find?_some hfound
    have hentry := List.mem_reverse.mp (List.mem_of_find?_eq_some hfound)
    rw [Bool.and_eq_true, decide_eq_true_eq, decide_eq_true_eq] at hmatch
    exact hunique entry hentry hmatch.1 hmatch.2

/-! ## Orders of lines -/

/-- The second groups are the first ones in any order, each with its keys in any order. -/
def Reordered (groups groups' : List Group) : Prop :=
  ∃ middle : List Group, middle.Perm groups ∧
    List.Forall₂ (fun group group' => group.header = group'.header ∧
      group.values.Perm group'.values) middle groups'

namespace Reordered

variable {groups groups' : List Group}

theorem refl (groups : List Group) : Reordered groups groups :=
  ⟨groups, .refl _, List.forall₂_same.mpr fun _ _ => ⟨rfl, .refl _⟩⟩

/-- The order of lines does not decide whether they can be read. -/
theorem isPlain (h : Reordered groups groups') (hplain : ∀ group ∈ groups, group.IsPlain) :
    ∀ group ∈ groups', group.IsPlain := by
  obtain ⟨middle, hperm, hall⟩ := h
  have hmiddle : ∀ group ∈ middle, group.IsPlain := fun group hgroup =>
    hplain group (hperm.subset hgroup)
  clear hperm
  induction hall with
  | nil => exact List.forall_mem_nil _
  | @cons group group' _ _ hgroup _ ih =>
    rw [List.forall_mem_cons] at hmiddle ⊢
    obtain ⟨hheader, hvalues⟩ := hgroup
    refine ⟨⟨hheader ▸ hmiddle.1.header, fun pair hpair => ?_, fun pair hpair => ?_⟩, ih hmiddle.2⟩
    · exact hmiddle.1.key pair (hvalues.symm.subset hpair)
    · exact hmiddle.1.value pair (hvalues.symm.subset hpair)

/-- The entries are the same but for their order. -/
theorem perm_entries (h : Reordered groups groups') :
    (groups.flatMap Group.entries).Perm (groups'.flatMap Group.entries) := by
  obtain ⟨middle, hperm, hall⟩ := h
  refine (hperm.symm.flatMap_right _).trans ?_
  clear hperm
  induction hall with
  | nil => exact .nil
  | cons hgroup _ ih =>
    rw [List.flatMap_cons, List.flatMap_cons]
    obtain ⟨hheader, hvalues⟩ := hgroup
    refine .append ?_ ih
    rw [Group.entries, Group.entries, hheader]
    exact hvalues.map _

end Reordered

end Ini

end SpriteStage
