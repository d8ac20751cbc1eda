import Mathlib.Data.List.Nodup

/-!
# Interleavings

Several lists are interleaved by taking, again and again, the first element that is left in one of
them. `Interleaves lists merged` says that `merged` is what was taken when nothing was left.

`interleaves_of_keyed` finds an interleaving in a list whose elements are marked: of the parts that
have the same mark.
-/

namespace SpriteStage

variable {α ι κ : Type}

/-- All elements of `lists`, with those of each list in their order. -/
inductive Interleaves : List (List α) → List α → Prop
  /-- Nothing is left. -/
  | done {lists : List (List α)} (h : ∀ l ∈ lists, l = []) : Interleaves lists []
  /-- The first element of one of the lists comes next. -/
  | next {before after : List (List α)} {l merged : List α} {a : α}
      (h : Interleaves (before ++ l :: after) merged) :
      Interleaves (before ++ (a :: l) :: after) (a :: merged)

/-- There is no choice where at most one of the lists has elements. -/
theorem Interleaves.eq_flatten {lists : List (List α)} {merged : List α}
    (h : Interleaves lists merged) (hone : (lists.filter (!·.isEmpty)).length ≤ 1) :
    merged = lists.flatten := by
  induction h with
  | done h => exact (List.flatten_eq_nil_iff.mpr h).symm
  | @next before after l merged a _ ih =>
    rw [List.filter_append, List.filter_cons_of_pos (by simp), List.length_append,
      List.length_cons] at hone
    have hnil {part : List (List α)} (hpart : (part.filter (!·.isEmpty)).length = 0) :
        part.flatten = [] := by
      rw [List.length_eq_zero_iff, List.filter_eq_nil_iff] at hpart
      exact List.flatten_eq_nil_iff.mpr fun l hl => by simpa using hpart l hl
    have hrest : merged = (before ++ l :: after).flatten := by
      refine ih ?_
      rw [List.filter_append, List.filter_cons, List.length_append]
      split
      · rw [List.length_cons]
        omega
      · omega
    rw [List.flatten_append, List.flatten_cons, hnil (by omega), hnil (by omega)] at hrest ⊢
    simp [hrest]

theorem Interleaves.eq_of_singleton {l merged : List α} (h : Interleaves [l] merged) :
    merged = l := by
  have hone : ([l].filter (!·.isEmpty)).length ≤ 1 := List.length_filter_le _ _
  rw [h.eq_flatten hone, List.flatten_singleton]

theorem Interleaves.eq_nil {merged : List α} (h : Interleaves [] merged) : merged = [] :=
  h.eq_flatten (Nat.zero_le 1)

/-- The parts of a list that have one mark each interleave to the list. -/
theorem interleaves_of_keyed [DecidableEq κ] {key : ι → κ} {steps : List (ι × α)} {keys : List κ}
    (hnodup : keys.Nodup) (hkeys : ∀ step ∈ steps, key step.1 ∈ keys) :
    Interleaves (keys.map fun k => (steps.filter (key ·.1 = k)).map (·.2)) (steps.map (·.2)) := by
  induction steps with
  | nil =>
    refine .done fun l hl => ?_
    obtain ⟨_, -, rfl⟩ := List.mem_map.mp hl
    rfl
  | cons step steps ih =>
    obtain ⟨before, after, rfl⟩ := List.append_of_mem (hkeys step (.head _))
    -- The marks before and after are other marks, so their parts do not have this element.
    have hother {ks : List κ} (hks : key step.1 ∉ ks) :
        (ks.map fun k => ((step :: steps).filter (key ·.1 = k)).map (·.2)) =
          ks.map fun k => (steps.filter (key ·.1 = k)).map (·.2) := by
      refine List.map_congr_left fun k hk => ?_
      rw [List.filter_cons_of_neg]
      rintro heq
      exact hks (of_decide_eq_true heq ▸ hk)
    have hnext := ih fun step hstep => hkeys step (.tail _ hstep)
    rw [List.nodup_append, List.nodup_cons] at hnodup
    rw [List.map_append, List.map_cons] at hnext ⊢
    rw [hother fun hmem => hnodup.2.2 _ hmem _ (.head _) rfl, hother hnodup.2.1.1,
      List.filter_cons_of_pos (by simp)]
    exact .next hnext

end SpriteStage
