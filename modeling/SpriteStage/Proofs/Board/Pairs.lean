import SpriteStage.Board.Pass

/-!
# Reported pairs

A pass reports every pair of colliding tabs twice, and exchanges queues on one of the two reports.
Here the reports that lead to exchanges are told without counting places:

* `pairsOf l` lists the pairs of two places of `l`, row by row;
* `Tab.Collides` says when two tabs collide;
* `direct_collisions`: the reports that are not reversed are the pairs of colliding tabs, in the
  order of `pairsOf`.
-/

namespace SpriteStage

/-- The pairs of an element of a list and a later one, row by row. -/
def pairsOf {α : Type} : List α → List (α × α)
  | [] => []
  | a :: l => l.map (a, ·) ++ pairsOf l

/-- Two tabs collide if both have a tracked position, their ids differ, they do not follow the same
sprite, and their boxes overlap. -/
def Tab.Collides (follow : Bool) (a b : Tab) : Prop :=
  a.id ≠ b.id ∧ (follow = true → a.sprite ≠ b.sprite) ∧
    ∃ p ∈ a.tracked, ∃ q ∈ b.tracked, (Box.spanned p a.size).overlaps (.spanned q b.size) = true

instance (follow : Bool) (a b : Tab) : Decidable (a.Collides follow b) :=
  inferInstanceAs (Decidable (_ ∧ _ ∧ _))

theorem Tab.Collides.symm {follow : Bool} {a b : Tab} (h : a.Collides follow b) :
    b.Collides follow a := by
  obtain ⟨hid, hsprite, p, hp, q, hq, hoverlap⟩ := h
  exact ⟨hid.symm, fun hfollow => (hsprite hfollow).symm, q, hq, p, hp,
    Box.overlaps_comm _ _ ▸ hoverlap⟩

theorem mem_of_mem_pairsOf {α : Type} {l : List α} {pair : α × α} (h : pair ∈ pairsOf l) :
    pair.1 ∈ l ∧ pair.2 ∈ l := by
  induction l with
  | nil => cases h
  | cons a l ih =>
    rw [pairsOf, List.mem_append, List.mem_map] at h
    rcases h with ⟨b, hb, rfl⟩ | h
    · exact ⟨.head _, .tail _ hb⟩
    · exact ⟨.tail _ (ih h).1, .tail _ (ih h).2⟩

/-- Renaming elements renames them in their pairs. -/
theorem pairsOf_map {α β : Type} (f : α → β) (l : List α) :
    pairsOf (l.map f) = (pairsOf l).map (Prod.map f f) := by
  induction l with
  | nil => rfl
  | cons a l ih => simp [pairsOf, ih, Function.comp_def]

/-- The tabs of the colliding pairs among tabs in order. -/
def collidingPairs (follow : Bool) (tabs : List Tab) : List (Tab × Tab) :=
  (pairsOf tabs).filter fun pair => pair.1.Collides follow pair.2

/-- A colliding pair consists of two of the tabs, which collide. -/
theorem mem_collidingPairs {follow : Bool} {tabs : List Tab} {pair : Tab × Tab}
    (h : pair ∈ collidingPairs follow tabs) :
    pair.1 ∈ tabs ∧ pair.2 ∈ tabs ∧ pair.1.Collides follow pair.2 := by
  rw [collidingPairs, List.mem_filter, decide_eq_true_eq] at h
  exact ⟨(mem_of_mem_pairsOf h.1).1, (mem_of_mem_pairsOf h.1).2, h.2⟩

/-! ## Entries -/

/-- Entries meet as their tabs collide. -/
theorem meets_iff {follow : Bool} {a b : Tab} {ea eb : Entry} (ha : a.entry? = some ea)
    (hb : b.entry? = some eb) : ea.meets follow eb = true ↔ a.Collides follow b := by
  simp only [Tab.entry?, Option.map_eq_some_iff] at ha hb
  obtain ⟨p, hp, rfl⟩ := ha
  obtain ⟨q, hq, rfl⟩ := hb
  simp only [Entry.meets, Tab.Collides, hp, hq, Option.mem_some_iff, exists_eq_left']
  cases follow <;> simp [and_assoc]

/-- A tab without an entry collides with none. -/
theorem not_collides_of_entry?_eq_none {follow : Bool} {a b : Tab} (h : a.entry? = none) :
    ¬ a.Collides follow b := by
  rintro ⟨-, -, p, hp, -⟩
  rw [Tab.entry?, Option.map_eq_none_iff] at h
  rw [h] at hp
  cases hp

/-- The entry of a tab is about that tab. -/
theorem tab_of_entry {tab : Tab} {entry : Entry} (h : tab.entry? = some entry) :
    entry.tab = tab := by
  rw [Tab.entry?, Option.map_eq_some_iff] at h
  obtain ⟨p, -, rfl⟩ := h
  rfl

/-- One row of meeting entries. -/
private theorem row_entries (follow : Bool) {a : Tab} {ea : Entry} (ha : a.entry? = some ea)
    (tabs : List Tab) :
    ((tabs.filterMap Tab.entry?).filter (ea.meets follow ·)).map (·.tab) =
      tabs.filter fun b => a.Collides follow b := by
  induction tabs with
  | nil => rfl
  | cons b tabs ih =>
    cases hb : b.entry? with
    | none =>
      -- A tab without a position meets nothing and collides with nothing.
      have hno : ¬ a.Collides follow b := fun h => not_collides_of_entry?_eq_none hb h.symm
      rw [List.filterMap_cons_none hb, ih, List.filter_cons_of_neg (by simpa using hno)]
    | some eb =>
      rw [List.filterMap_cons_some hb]
      by_cases hmeets : ea.meets follow eb = true
      · have hcollides := (meets_iff ha hb).mp hmeets
        rw [List.filter_cons_of_pos hmeets, List.filter_cons_of_pos (by simpa using hcollides),
          List.map_cons, ih, tab_of_entry hb]
      · have hno : ¬ a.Collides follow b := mt (meets_iff ha hb).mpr hmeets
        rw [List.filter_cons_of_neg hmeets, List.filter_cons_of_neg (by simpa using hno), ih]

/-- The pairs of meeting entries are the pairs of colliding tabs. -/
theorem pairsOf_entries (follow : Bool) (tabs : List Tab) :
    ((pairsOf (tabs.filterMap Tab.entry?)).filter fun pair => pair.1.meets follow pair.2).map
      (fun pair => (pair.1.tab, pair.2.tab)) = collidingPairs follow tabs := by
  induction tabs with
  | nil => rfl
  | cons a tabs ih =>
    rw [collidingPairs, pairsOf, List.filter_append, List.filter_map]
    cases ha : a.entry? with
    | none =>
      -- A tab without a position has no entry, and it is in no colliding pair.
      have hrow : tabs.filter ((fun pair : Tab × Tab =>
          decide (pair.1.Collides follow pair.2)) ∘ (a, ·)) = [] :=
        List.filter_eq_nil_iff.mpr fun b _ => by simpa using not_collides_of_entry?_eq_none ha
      rw [List.filterMap_cons_none ha, hrow, ih]
      rfl
    | some ea =>
      rw [List.filterMap_cons_some ha, pairsOf, List.filter_append, List.filter_map,
        List.map_append, ih, List.map_map]
      congr 1
      have hrow := congrArg (List.map fun b => (a, b)) (row_entries follow ha tabs)
      rw [List.map_map] at hrow
      rw [← tab_of_entry ha] at hrow ⊢
      exact hrow

/-! ## Reports -/

section Reports

variable {follow : Bool}

/-- The reports on one entry against others with their places. -/
private def reportRow (follow : Bool) (a : Entry) (i : Nat) (row : List (Entry × Nat)) :
    List Collision :=
  row.filterMap fun (b, j) => if a.meets follow b then some ⟨a.tab.id, b.tab.id, j < i⟩ else none

/-- Reports on entries that come before are reversed. -/
private theorem direct_reportRow_before {a : Entry} {i : Nat} {row : List (Entry × Nat)}
    (h : ∀ entry ∈ row, entry.2 < i) : (reportRow follow a i row).filter (!·.reversed) = [] := by
  rw [List.filter_eq_nil_iff]
  intro collision hcollision
  rw [reportRow, List.mem_filterMap] at hcollision
  obtain ⟨⟨b, j⟩, hb, hcollision⟩ := hcollision
  have hlt : j < i := h (b, j) hb
  simp only [Option.ite_none_right_eq_some, Option.some.injEq] at hcollision
  rw [← hcollision.2]
  simpa using hlt

/-- Reports on entries that come after are direct. -/
private theorem direct_reportRow_after {a : Entry} {i : Nat} {row : List (Entry × Nat)}
    (h : ∀ entry ∈ row, i < entry.2) :
    (reportRow follow a i row).filter (!·.reversed) =
      ((row.map (·.1)).filter (a.meets follow ·)).map fun b => ⟨a.tab.id, b.tab.id, false⟩ := by
  induction row with
  | nil => rfl
  | cons entry row ih =>
    obtain ⟨b, j⟩ := entry
    have hlt : i < j := h (b, j) (.head _)
    have ih := ih fun entry hentry => h entry (.tail _ hentry)
    rw [reportRow] at ih ⊢
    by_cases hmeets : a.meets follow b = true
    · rw [List.filterMap_cons_some (by simp only [hmeets, if_true]; rfl), List.map_cons,
        List.filter_cons_of_pos hmeets, List.filter_cons_of_pos (by simpa using Nat.le_of_lt hlt),
        ih, List.map_cons]
      simpa using Nat.le_of_lt hlt
    · rw [List.filterMap_cons_none (by simp [hmeets]), List.map_cons,
        List.filter_cons_of_neg hmeets, ih]

/-- No entry meets itself. -/
private theorem meets_self (a : Entry) : a.meets follow a = false := by simp [Entry.meets]

private theorem reportRow_append (a : Entry) (i : Nat) (row row' : List (Entry × Nat)) :
    reportRow follow a i (row ++ row') = reportRow follow a i row ++ reportRow follow a i row' :=
  List.filterMap_append

private theorem reportRow_cons_self (a : Entry) (i j : Nat) (row : List (Entry × Nat)) :
    reportRow follow a i ((a, j) :: row) = reportRow follow a i row :=
  List.filterMap_cons_none (by simp [meets_self])

/-- The direct reports on the entries from some place on. -/
private theorem direct_rows (before rest : List Entry) :
    ((rest.zipIdx before.length).flatMap fun entry =>
        (reportRow follow entry.1 entry.2 (before ++ rest).zipIdx).filter (!·.reversed)) =
      ((pairsOf rest).filter fun pair => pair.1.meets follow pair.2).map fun pair =>
        ⟨pair.1.tab.id, pair.2.tab.id, false⟩ := by
  induction rest generalizing before with
  | nil => rfl
  | cons a rest ih =>
    have hbefore : ∀ entry ∈ before.zipIdx, entry.2 < before.length := by
      intro entry hentry
      simpa using (List.mem_zipIdx hentry).2.1
    have hafter : ∀ entry ∈ rest.zipIdx (before.length + 1), before.length < entry.2 :=
      fun entry hentry => (List.mem_zipIdx hentry).1
    -- Against the entries before it, itself and those after it, only the last part is direct.
    have hrow : (reportRow follow a before.length (before ++ a :: rest).zipIdx).filter
          (!·.reversed) =
        (rest.filter (a.meets follow ·)).map fun b => ⟨a.tab.id, b.tab.id, false⟩ := by
      rw [List.zipIdx_append, List.zipIdx_cons, Nat.zero_add, reportRow_append, reportRow_cons_self,
        List.filter_append, direct_reportRow_before hbefore, direct_reportRow_after hafter,
        List.nil_append, List.zipIdx_map_fst]
    rw [List.zipIdx_cons, List.flatMap_cons, hrow, pairsOf, List.filter_append, List.map_append,
      List.filter_map, List.map_map]
    congr 1
    have ih := ih (before ++ [a])
    rwa [List.length_append, List.append_assoc] at ih

/-- The direct reports on entries are their meeting pairs, row by row. -/
theorem direct_collisions (entries : List Entry) :
    (collisions follow entries).filter (!·.reversed) =
      ((pairsOf entries).filter fun pair => pair.1.meets follow pair.2).map fun pair =>
        ⟨pair.1.tab.id, pair.2.tab.id, false⟩ := by
  rw [collisions, List.filter_flatMap]
  exact direct_rows [] entries

end Reports

end SpriteStage
