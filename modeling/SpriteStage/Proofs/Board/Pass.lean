import SpriteStage.Proofs.Board.Exchange
import SpriteStage.Proofs.Board.Pairs

/-!
# What a pass does to the board

A board that is not awake is left as it is. On one that is, the pass clears the marks of all tabs
and exchanges queues along the colliding pairs. The main statements:

* `isAwake_pass`: a pass leaves the board asleep, whatever it exchanged;
* `queues_pass`: what a pass does to the queues, told by the colliding pairs of the tabs in order;
* `rows_pass`, `nextSlot_pass`, `contains_pass`, `evaluations_pass` and `followSprites_pass`:
  everything else it does.
-/

namespace SpriteStage

/-- The ids of a pair of tabs. -/
def idsOf (pair : Tab × Tab) : ActionId × ActionId := (pair.1.id, pair.2.id)

namespace Board

/-! ## Answers to reports -/

section React

variable {board : Board} {reports : List Collision}

/-- Answers concern the queues and the revision that the monitor has seen. -/
theorem foldl_react_eq (board : Board) (reports : List Collision) :
    reports.foldl react board =
      { board with
        queues := (reports.foldl react board).queues
        monitor := { board.monitor with
          seenRevision := (reports.foldl react board).monitor.seenRevision } } := by
  induction reports generalizing board with
  | nil => rfl
  | cons report reports ih =>
    rw [List.foldl_cons, ih]
    cases h : report.reversed <;> simp [react, h]

/-- No answer creates or loses a queue. -/
theorem contains_foldl_react (board : Board) (reports : List Collision) (id : ActionId) :
    (reports.foldl react board).queues.contains id = board.queues.contains id := by
  induction reports generalizing board with
  | nil => rfl
  | cons report reports ih =>
    rw [List.foldl_cons, ih, react]
    split
    · rfl
    · cases hswap : board.queues.swap? report.first report.second with
      | none => rfl
      | some queues => exact Queues.contains_of_swap? hswap id

/-- The monitor takes note of every revision that it brings about. -/
theorem seenRevision_foldl_react (reports : List Collision)
    (h : board.monitor.seenRevision = some board.queues.revision) :
    (reports.foldl react board).monitor.seenRevision =
      some (reports.foldl react board).queues.revision := by
  induction reports generalizing board with
  | nil => exact h
  | cons report reports ih =>
    refine ih ?_
    rw [react]
    split
    · exact h
    · -- It takes note after every direct report, whether or not queues were exchanged.
      rfl

/-- Only direct reports are answered. -/
theorem foldl_react_direct (board : Board) (reports : List Collision) :
    (reports.filter (!·.reversed)).foldl react board = reports.foldl react board := by
  induction reports generalizing board with
  | nil => rfl
  | cons report reports ih =>
    cases h : report.reversed with
    | true => rw [List.filter_cons_of_neg (by simp [h]), ih, List.foldl_cons, react, if_pos h]
    | false => rw [List.filter_cons_of_pos (by simp [h]), List.foldl_cons, ih, List.foldl_cons]

/-- Direct reports on different queues that exist are answered by one exchange each. -/
theorem queues_foldl_react {pairs : List (ActionId × ActionId)}
    (h : ∀ pair ∈ pairs, pair.1 ≠ pair.2 ∧ board.queues.contains pair.1 = true ∧
      board.queues.contains pair.2 = true) :
    let board' := (pairs.map fun pair => ⟨pair.1, pair.2, false⟩).foldl react board
    (∀ id : ActionId, board'.queues.script[id]? = board.queues.script[exchange pairs id]?) ∧
      board'.queues.revision = board.queues.revision + pairs.length := by
  induction pairs generalizing board with
  | nil => exact ⟨fun _ => rfl, rfl⟩
  | cons pair pairs ih =>
    obtain ⟨hne, hfirst, hsecond⟩ := h pair (.head _)
    obtain ⟨queues, hswap⟩ := Queues.exists_swap? hne hfirst hsecond
    have hreact : (board.react ⟨pair.1, pair.2, false⟩).queues = queues := by simp [react, hswap]
    -- The exchange keeps all queues that the later ones need.
    have hrest : ∀ other ∈ pairs, other.1 ≠ other.2 ∧
        (board.react ⟨pair.1, pair.2, false⟩).queues.contains other.1 = true ∧
        (board.react ⟨pair.1, pair.2, false⟩).queues.contains other.2 = true := by
      intro other hother
      rw [hreact, Queues.contains_of_swap? hswap, Queues.contains_of_swap? hswap]
      exact h other (.tail _ hother)
    obtain ⟨hqueues, hcount⟩ := ih hrest
    refine ⟨fun id => ?_, ?_⟩
    · rw [List.map_cons, List.foldl_cons, hqueues, hreact, Queues.getElem?_of_swap? hswap,
        exchange_cons_apply]
    · rw [List.map_cons, List.foldl_cons, hcount, hreact, Queues.revision_of_swap? hswap,
        List.length_cons]
      omega

end React

/-! ## Passes -/

/-- The board right after a look that evaluated it, before any report is answered. -/
def evaluated (board : Board) : Board :=
  { board.mapTabs ({ · with touched := false }) with
    monitor := { board.monitor with
      seenRevision := some board.queues.revision
      evaluations := board.monitor.evaluations + 1 } }

/-- What a pass reports when it evaluates the board. -/
def found (board : Board) : List Collision :=
  collisions board.monitor.followSprites board.entries

/-- A board that is not awake is left alone. -/
theorem pass_of_asleep {board : Board} (h : board.isAwake = false) : board.pass = (board, []) := by
  rw [pass, detect, h]
  rfl

/-- A board that is awake is evaluated, and all reports are answered. -/
theorem pass_of_awake {board : Board} (h : board.isAwake = true) :
    board.pass = (board.found.foldl react board.evaluated, board.found) := by
  rw [pass, detect, h]
  rfl

section Frame

variable (board : Board)

/-- A pass keeps all tabs in their rows, and changes nothing about them but the mark. -/
theorem rows_pass : board.pass.1.rows = board.rows.map fun row =>
    (row.1, if board.isAwake then { row.2 with touched := false } else row.2) := by
  cases h : board.isAwake with
  | false => simp [pass_of_asleep h]
  | true =>
    rw [pass_of_awake h, foldl_react_eq]
    simp [evaluated, mapTabs]

theorem nextSlot_pass : board.pass.1.nextSlot = board.nextSlot := by
  cases h : board.isAwake with
  | false => rw [pass_of_asleep h]
  | true =>
    rw [pass_of_awake h, foldl_react_eq]
    rfl

/-- A pass neither creates nor loses a queue. -/
theorem contains_pass (id : ActionId) :
    board.pass.1.queues.contains id = board.queues.contains id := by
  cases h : board.isAwake with
  | false => rw [pass_of_asleep h]
  | true => rw [pass_of_awake h, contains_foldl_react]; rfl

/-- A pass over a board that is awake counts as an evaluation. -/
theorem evaluations_pass : board.pass.1.monitor.evaluations =
    board.monitor.evaluations + if board.isAwake then 1 else 0 := by
  cases h : board.isAwake with
  | false => simp [pass_of_asleep h]
  | true =>
    rw [pass_of_awake h, foldl_react_eq]
    rfl

theorem followSprites_pass :
    board.pass.1.monitor.followSprites = board.monitor.followSprites := by
  cases h : board.isAwake with
  | false => rw [pass_of_asleep h]
  | true =>
    rw [pass_of_awake h, foldl_react_eq]
    rfl

end Frame

/-- The two reasons for which a board is awake. -/
theorem isAwake_eq_false_iff {board : Board} : board.isAwake = false ↔
    board.monitor.seenRevision = some board.queues.revision ∧
      ∀ row ∈ board.rows, row.2.touched = false := by
  simp [isAwake, tabs]

/-- A pass leaves the board asleep: its own exchanges do not wake the monitor. -/
theorem isAwake_pass (board : Board) : board.pass.1.isAwake = false := by
  cases h : board.isAwake with
  | false => rw [pass_of_asleep h]; exact h
  | true =>
    refine isAwake_eq_false_iff.mpr ⟨?_, ?_⟩
    · rw [pass_of_awake h]
      exact seenRevision_foldl_react _ rfl
    · intro row hrow
      rw [rows_pass, List.mem_map] at hrow
      obtain ⟨old, -, rfl⟩ := hrow
      simp [h]

/-- A pass over a board that is awake reports the colliding pairs of its tabs in order, and makes
one exchange for each of them, in that order. -/
theorem queues_pass {board : Board} {tabs : List Tab} (hawake : board.isAwake = true)
    (hentries : board.entries = tabs.filterMap Tab.entry?)
    (hqueues : ∀ tab ∈ tabs, board.queues.contains tab.id = true) :
    let pairs := (collidingPairs board.monitor.followSprites tabs).map idsOf
    board.pass.2.filter (!·.reversed) = pairs.map (fun pair => ⟨pair.1, pair.2, false⟩) ∧
      (∀ id : ActionId,
        board.pass.1.queues.script[id]? = board.queues.script[exchange pairs id]?) ∧
      board.pass.1.queues.revision = board.queues.revision + pairs.length := by
  intro pairs
  have hdirect : board.found.filter (!·.reversed) =
      pairs.map fun pair => ⟨pair.1, pair.2, false⟩ := by
    rw [found, direct_collisions, hentries]
    simp only [pairs]
    rw [← pairsOf_entries, List.map_map, List.map_map]
    rfl
  -- The ids of a pair differ and both have queues, so none of the exchanges is refused.
  have hpairs : ∀ pair ∈ pairs, pair.1 ≠ pair.2 ∧ board.evaluated.queues.contains pair.1 = true ∧
      board.evaluated.queues.contains pair.2 = true := by
    intro pair hpair
    obtain ⟨collision, hcollision, rfl⟩ := List.mem_map.mp hpair
    obtain ⟨hfirst, hsecond, hcollides⟩ := mem_collidingPairs hcollision
    exact ⟨hcollides.1, hqueues _ hfirst, hqueues _ hsecond⟩
  rw [pass_of_awake hawake, ← foldl_react_direct, hdirect]
  exact ⟨rfl, queues_foldl_react hpairs⟩

end Board

end SpriteStage
