import Mathlib.Data.List.Nodup
import Mathlib.Data.List.ProdSigma
import SpriteStage.Proofs.Board.Pairs

/-!
# Reports of a pass

A pass scans the tabs twice, in nested loops over the places of a sorted list. Here is what it
reports, told without the loops and without places:

* `Board.Precedes`: the order in which the monitor visits tabs;
* `pairwise_mergeSort_of_pairwise`: what sorting leaves as it stood;
* `collisions_eq`: the reports on entries in order are the pairs of meeting entries.

The main statement is `detect_reports_colliding_pairs`.
-/

namespace SpriteStage

/-! ## The order of visits -/

/-- The row in which the tab of an id stands. -/
def Board.rowOf (board : Board) (id : ActionId) : Nat := (board.tabs.map (·.id)).idxOf id

/-- The monitor visits tabs by their order, and tabs of equal order as they stand in rows. -/
def Board.Precedes (board : Board) (a b : Tab) : Prop :=
  a.order < b.order ∨ a.order = b.order ∧ board.rowOf a.id < board.rowOf b.id

instance (board : Board) (a b : Tab) : Decidable (board.Precedes a b) :=
  inferInstanceAs (Decidable (_ ∨ _))

/-- Pairs of tabs are visited by their first tabs, and then by their second ones. -/
def Board.PairPrecedes (board : Board) (p q : Tab × Tab) : Prop :=
  board.Precedes p.1 q.1 ∨ p.1 = q.1 ∧ board.Precedes p.2 q.2

namespace Board

variable {board : Board}

theorem Precedes.asymm {a b : Tab} (h : board.Precedes a b) : ¬ board.Precedes b a := by
  simp only [Precedes] at h ⊢
  omega

theorem PairPrecedes.asymm {p q : Tab × Tab} (h : board.PairPrecedes p q) :
    ¬ board.PairPrecedes q p := by
  rcases h with hlt | ⟨heq, hlt⟩
  · rintro (hgt | ⟨hback, -⟩)
    · exact hlt.asymm hgt
    · exact hlt.asymm (hback ▸ hlt)
  · rintro (hgt | ⟨-, hgt⟩)
    · exact hgt.asymm (heq ▸ hgt)
    · exact hlt.asymm hgt

/-- Of two tabs with different ids, one comes first. -/
theorem precedes_or_precedes {a b : Tab} (ha : a ∈ board.tabs) (hid : a.id ≠ b.id) :
    board.Precedes a b ∨ board.Precedes b a := by
  have hrow : board.rowOf a.id ≠ board.rowOf b.id :=
    fun heq => hid ((List.idxOf_inj (List.mem_map_of_mem ha)).mp heq)
  simp only [Precedes]
  omega

end Board

/-- Sorting leaves elements that compare equal in any order in which they all stood. -/
theorem pairwise_mergeSort_of_pairwise {α : Type} {le : α → α → Bool} {r : α → α → Prop}
    {l : List α} (trans : ∀ a b c, le a b → le b c → le a c) (total : ∀ a b, le a b || le b a)
    (h : l.Pairwise r) :
    (l.mergeSort le).Pairwise fun a b => le a b = true ∧ (le b a = true → r a b) := by
  have hsorted := List.pairwise_mergeSort (List.zipIdxLE_trans trans) (List.zipIdxLE_total total)
    l.zipIdx
  have hplaces : (l.zipIdx.mergeSort (List.zipIdxLE le)).Pairwise (·.2 ≠ ·.2) := by
    have hnodup : (l.zipIdx.map Prod.snd).Nodup := List.zipIdx_map_snd 0 l ▸ List.nodup_range'
    exact List.pairwise_map.mp (((List.mergeSort_perm _ _).map Prod.snd).nodup_iff.mpr hnodup)
  rw [← List.mergeSort_zipIdx, List.pairwise_map]
  refine (hsorted.and hplaces).imp_of_mem ?_
  rintro ⟨a, i⟩ ⟨b, j⟩ ha hb ⟨hle, hne⟩
  rw [List.mem_mergeSort, List.mk_mem_zipIdx_iff_getElem?] at ha hb
  obtain ⟨hi, rfl⟩ := List.getElem?_eq_some_iff.mp ha
  obtain ⟨hj, rfl⟩ := List.getElem?_eq_some_iff.mp hb
  -- Of two elements that compare equal, the one that stood first comes first.
  simp only [List.zipIdxLE] at hle
  split at hle
  · next hab =>
    refine ⟨hab, fun hba => ?_⟩
    rw [if_pos hba, decide_eq_true_eq] at hle
    exact List.pairwise_iff_getElem.mp h i j hi hj (Nat.lt_of_le_of_ne hle hne)
  · cases hle

/-- The ordered pairs of a sorted list are sorted by their first components, and then by their
second ones. -/
theorem pairwise_product {α : Type} {r : α → α → Prop} {l l' : List α} (h : l.Pairwise r)
    (h' : l'.Pairwise r) :
    (l ×ˢ l').Pairwise fun p q => r p.1 q.1 ∨ p.1 = q.1 ∧ r p.2 q.2 := by
  induction l with
  | nil => exact .nil
  | cons a l ih =>
    obtain ⟨hfirst, hrest⟩ := List.pairwise_cons.mp h
    rw [List.product_cons, List.pairwise_append, List.pairwise_map]
    refine ⟨h'.imp fun hlt => .inr ⟨rfl, hlt⟩, ih hrest, fun p hp q hq => .inl ?_⟩
    obtain ⟨b, -, rfl⟩ := List.mem_map.mp hp
    exact hfirst q.1 (List.mem_product.mp hq).1

/-! ## Reports -/

section Reports

variable {board : Board} {follow : Bool}

/-- Of two places in a list in order, the later one has the element that comes later. -/
private theorem place_lt_iff {entries : List Entry}
    (h : entries.Pairwise fun a b => board.Precedes a.tab b.tab) {a b : Entry} {i j : Nat}
    (ha : (a, i) ∈ entries.zipIdx) (hb : (b, j) ∈ entries.zipIdx) (hne : a ≠ b) :
    j < i ↔ board.Precedes b.tab a.tab := by
  rw [List.mk_mem_zipIdx_iff_getElem?] at ha hb
  obtain ⟨hi, rfl⟩ := List.getElem?_eq_some_iff.mp ha
  obtain ⟨hj, rfl⟩ := List.getElem?_eq_some_iff.mp hb
  have horder := List.pairwise_iff_getElem.mp h
  constructor
  · exact fun hlt => horder j i hj hi hlt
  · intro hprecedes
    by_contra hge
    have hij : i ≠ j := by
      rintro rfl
      exact hne rfl
    exact hprecedes.asymm (horder i j hi hj (by omega))

/-- The reports on entries in order are those on the pairs of meeting entries, and a report is
reversed if the second entry comes first. -/
theorem collisions_eq {entries : List Entry}
    (h : entries.Pairwise fun a b => board.Precedes a.tab b.tab) :
    collisions follow entries =
      ((entries ×ˢ entries).filter fun pair => pair.1.meets follow pair.2).map fun pair =>
        ⟨pair.1.tab.id, pair.2.tab.id, board.Precedes pair.2.tab pair.1.tab⟩ := by
  have hplaced {β : Type} (f : Entry → List β) :
      entries.flatMap f = entries.zipIdx.flatMap fun entry => f entry.1 := by
    conv_lhs => rw [← List.zipIdx_map_fst 0 entries, List.flatMap_map]
  -- One row of the scan: places tell the order, as no entry meets itself.
  have hrow {a : Entry} {i : Nat} (ha : (a, i) ∈ entries.zipIdx) :
      (entries.zipIdx.filterMap fun entry => if a.meets follow entry.1
          then some (⟨a.tab.id, entry.1.tab.id, entry.2 < i⟩ : Collision) else none) =
        (entries.filter (a.meets follow ·)).map fun b =>
          ⟨a.tab.id, b.tab.id, board.Precedes b.tab a.tab⟩ := by
    rw [← List.filterMap_eq_map, List.filterMap_filter]
    conv_rhs => rw [← List.zipIdx_map_fst 0 entries, List.filterMap_map]
    refine List.filterMap_congr fun entry hentry => ?_
    simp only [Function.comp_apply]
    split
    · next hmeets =>
      have hne : a ≠ entry.1 := by
        rintro rfl
        simp [Entry.meets] at hmeets
      simp only [place_lt_iff h ha hentry hne]
    · rfl
  have hproduct : entries ×ˢ entries = entries.flatMap fun a => entries.map (a, ·) := rfl
  rw [hproduct, List.filter_flatMap, List.map_flatMap, hplaced, collisions]
  refine List.flatMap_congr fun entry hentry => ?_
  rw [List.filter_map, List.map_map]
  exact hrow hentry

/-- Where ids differ, the entries of a board stand in the order of visits. -/
theorem pairwise_entries (hids : (board.tabs.map (·.id)).Nodup) :
    board.entries.Pairwise fun a b => board.Precedes a.tab b.tab := by
  have hrows : board.tabs.Pairwise fun a b => board.rowOf a.id < board.rowOf b.id := by
    rw [List.pairwise_iff_getElem]
    intro i j hi hj hlt
    have hrow {k : Nat} (hk : k < board.tabs.length) : board.rowOf board.tabs[k].id = k := by
      have hfound := hids.idxOf_getElem k (by simpa using hk)
      rwa [List.getElem_map] at hfound
    rwa [hrow hi, hrow hj]
  have hentries : (board.tabs.filterMap Tab.entry?).Pairwise fun a b =>
      board.rowOf a.tab.id < board.rowOf b.tab.id := by
    rw [List.pairwise_filterMap]
    refine hrows.imp fun hlt a ha b hb => ?_
    rwa [tab_of_entry ha, tab_of_entry hb]
  have hsorted : board.entries.Pairwise fun a b =>
      decide (a.tab.order ≤ b.tab.order) = true ∧
        (decide (b.tab.order ≤ a.tab.order) = true →
          board.rowOf a.tab.id < board.rowOf b.tab.id) := by
    refine pairwise_mergeSort_of_pairwise (fun a b c hab hbc => ?_) (fun a b => ?_) hentries
    · simp only [decide_eq_true_eq] at *
      omega
    · simp only [Bool.or_eq_true, decide_eq_true_eq]
      omega
  refine hsorted.imp fun ⟨hle, hequal⟩ => ?_
  simp only [decide_eq_true_eq] at hle hequal
  rcases Nat.eq_or_lt_of_le hle with heq | hlt
  · exact .inr ⟨heq, hequal (Nat.le_of_eq heq.symm)⟩
  · exact .inl hlt

/-- The entries of a board are those of its tabs. -/
theorem mem_entries {entry : Entry} :
    entry ∈ board.entries ↔ ∃ tab ∈ board.tabs, tab.entry? = some entry := by
  rw [Board.entries, List.mem_mergeSort, List.mem_filterMap]

variable (follow) in
/-- Where ids differ, the reports are those on the pairs of colliding tabs, by their first tabs and
then by their second ones in the order of visits. -/
theorem exists_pairs_of_collisions (hids : (board.tabs.map (·.id)).Nodup) :
    ∃ pairs : List (Tab × Tab),
      collisions follow board.entries = pairs.map (fun pair =>
        ⟨pair.1.id, pair.2.id, board.Precedes pair.2 pair.1⟩) ∧
      (∀ pair, pair ∈ pairs ↔
        pair.1 ∈ board.tabs ∧ pair.2 ∈ board.tabs ∧ pair.1.Collides follow pair.2) ∧
      pairs.Pairwise board.PairPrecedes := by
  have hsorted := pairwise_entries hids
  refine ⟨((board.entries ×ˢ board.entries).filter fun pair => pair.1.meets follow pair.2).map
    fun pair => (pair.1.tab, pair.2.tab), ?_, fun pair => ?_, ?_⟩
  · rw [collisions_eq hsorted, List.map_map]
    rfl
  · obtain ⟨a, b⟩ := pair
    simp only [List.mem_map, List.mem_filter, Prod.exists, List.mem_product, mem_entries,
      Prod.mk.injEq]
    constructor
    · rintro ⟨ea, eb, ⟨⟨⟨a, hmema, ha⟩, b, hmemb, hb⟩, hmeets⟩, rfl, rfl⟩
      rw [tab_of_entry ha, tab_of_entry hb]
      exact ⟨hmema, hmemb, (meets_iff ha hb).mp hmeets⟩
    · rintro ⟨ha, hb, hcollides⟩
      obtain ⟨-, -, p, hp, q, hq, -⟩ := id hcollides
      have hea : a.entry? = some ⟨a, .spanned p a.size⟩ := by rw [Tab.entry?, hp]; rfl
      have heb : b.entry? = some ⟨b, .spanned q b.size⟩ := by rw [Tab.entry?, hq]; rfl
      exact ⟨_, _, ⟨⟨⟨a, ha, hea⟩, b, hb, heb⟩, (meets_iff hea heb).mpr hcollides⟩, rfl, rfl⟩
  · rw [List.pairwise_map]
    refine ((pairwise_product hsorted hsorted).filter _).imp fun h => ?_
    exact h.imp_right fun hsame => ⟨congrArg Entry.tab hsame.1, hsame.2⟩

end Reports

/-! ## Main statement -/

/-- The report is about two ids, in one order or the other. -/
def Collision.isAbout (collision : Collision) (a b : ActionId) : Bool :=
  collision.first = a && collision.second = b || collision.first = b && collision.second = a

/-- A look that evaluates a board of tabs with different ids reports exactly the overlapping pairs.
There is one report for every ordered pair of tabs that collide; the reports are sorted by the first
tab of the pair and then by the second one, in the order of visits; and a report is reversed if its
second tab comes first. So on two tabs that collide there are two reports, first the direct one and
then the reversed one. -/
theorem detect_reports_colliding_pairs {board : Board} (hids : (board.tabs.map (·.id)).Nodup)
    (hawake : board.isAwake = true) :
    let follow := board.monitor.followSprites
    let reports := board.detect.2
    (∃ pairs : List (Tab × Tab),
      reports = pairs.map (fun pair =>
        ⟨pair.1.id, pair.2.id, board.Precedes pair.2 pair.1⟩) ∧
      (∀ pair, pair ∈ pairs ↔
        pair.1 ∈ board.tabs ∧ pair.2 ∈ board.tabs ∧ pair.1.Collides follow pair.2) ∧
      pairs.Nodup ∧
      pairs.Pairwise board.PairPrecedes) ∧
    ∀ a ∈ board.tabs, ∀ b ∈ board.tabs, a.Collides follow b →
      (board.Precedes a b ∨ board.Precedes b a) ∧
      (board.Precedes a b → reports.filter (·.isAbout a.id b.id) =
        [⟨a.id, b.id, false⟩, ⟨b.id, a.id, true⟩]) := by
  intro follow reports
  have hreports : reports = collisions follow board.entries := by
    simp only [reports, Board.detect, if_pos hawake]
    rfl
  obtain ⟨pairs, hpairs, hmem, hsorted⟩ := exists_pairs_of_collisions follow hids
  have hnodup : pairs.Nodup := hsorted.imp fun {p q} hlt heq => (heq ▸ hlt).asymm (heq ▸ hlt)
  refine ⟨⟨pairs, hreports.trans hpairs, hmem, hnodup, hsorted⟩, fun a ha b hb hcollides =>
    ⟨Board.precedes_or_precedes ha hcollides.1, fun hfirst => ?_⟩⟩
  have hne : a ≠ b := fun h => hcollides.1 (congrArg Tab.id h)
  have habout : pairs.filter (fun pair =>
      Collision.isAbout ⟨pair.1.id, pair.2.id, board.Precedes pair.2 pair.1⟩ a.id b.id) =
      [(a, b), (b, a)] := by
    refine List.Perm.eq_of_pairwise (fun p q _ _ hpq hqp => (hpq.asymm hqp).elim)
      (hsorted.filter _) (.cons (by simpa using .inl hfirst) (List.pairwise_singleton _ _)) ?_
    refine (List.perm_ext_iff_of_nodup (hnodup.filter _) (by simp [hne])).mpr fun ⟨c, d⟩ => ?_
    simp only [List.mem_filter, hmem, Collision.isAbout, Bool.or_eq_true, Bool.and_eq_true,
      decide_eq_true_eq, List.mem_cons, Prod.mk.injEq, List.not_mem_nil, or_false]
    have hinj := List.inj_on_of_nodup_map hids
    constructor
    · rintro ⟨⟨hc, hd, -⟩, ⟨hca, hdb⟩ | ⟨hcb, hda⟩⟩
      · exact .inl ⟨hinj hc ha hca, hinj hd hb hdb⟩
      · exact .inr ⟨hinj hc hb hcb, hinj hd ha hda⟩
    · rintro (⟨rfl, rfl⟩ | ⟨rfl, rfl⟩)
      · exact ⟨⟨ha, hb, hcollides⟩, .inl ⟨rfl, rfl⟩⟩
      · exact ⟨⟨hb, ha, hcollides.symm⟩, .inr ⟨rfl, rfl⟩⟩
  rw [hreports, hpairs, List.filter_map]
  simp only [Function.comp_def, habout, List.map_cons, List.map_nil]
  simp [hfirst, hfirst.asymm]

/-- Three tabs whose boxes overlap, standing in another order than that of their visits, one tab far
from them and one without a position. -/
def Board.crowded : Board :=
  let tab (id : String) (order : Nat) (tracked : Option Position) : Tab :=
    { id := ⟨id⟩, sprite := ⟨1⟩, label := id, order, tracked }
  let tabs := [tab "c" 2 (some ⟨20, 20⟩), tab "a" 0 (some ⟨0, 0⟩), tab "b" 1 (some ⟨10, 10⟩),
    tab "far" 3 (some ⟨500, 500⟩), tab "none" 4 none]
  tabs.foldl Board.place {}

/-- On the crowded board, the tabs `c` and `a` are reported as `a` and `c`, and then as `c` and `a`
in reverse. -/
theorem crowded_reports_pair_twice :
    (Board.crowded.tabs.map (·.id)).Nodup ∧ Board.crowded.isAwake = true ∧
      Board.crowded.detect.2.filter (·.isAbout ⟨"a"⟩ ⟨"c"⟩) =
        [⟨⟨"a"⟩, ⟨"c"⟩, false⟩, ⟨⟨"c"⟩, ⟨"a"⟩, true⟩] := by
  have hids : (Board.crowded.tabs.map (·.id)).Nodup := by decide
  have hawake : Board.crowded.isAwake = true := by decide
  obtain ⟨-, htwice⟩ := detect_reports_colliding_pairs hids hawake
  refine ⟨hids, hawake, ?_⟩
  exact (htwice (Board.crowded.tabs.get ⟨1, by decide⟩) (List.getElem_mem _)
    (Board.crowded.tabs.get ⟨0, by decide⟩) (List.getElem_mem _) (by decide)).2 (by decide)

end SpriteStage
