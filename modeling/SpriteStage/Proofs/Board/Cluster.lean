import SpriteStage.Proofs.Board.Exchange
import SpriteStage.Proofs.Board.Pairs

/-!
# Exchanges within a cluster

What becomes of queues when every pair of some ids exchanges them, row by row:

* `map_exchange_row`: one row of exchanges rotates the queues;
* `map_exchange_pairsOf`: all rows together reverse them;
* `exchange_filter`: what ids exchange among themselves does not depend on what the others do.
-/

namespace SpriteStage

/-! ## Pairs within a list -/

/-- The pairs of a part of a list are the pairs of the list that lie in that part. -/
theorem pairsOf_filter {α : Type} (p : α → Bool) (l : List α) :
    pairsOf (l.filter p) = (pairsOf l).filter fun pair => p pair.1 && p pair.2 := by
  induction l with
  | nil => rfl
  | cons a l ih =>
    rw [pairsOf, List.filter_append, ← ih, List.filter_map]
    cases ha : p a with
    | true =>
      rw [List.filter_cons_of_pos ha, pairsOf]
      simp [Function.comp_def, ha]
    | false =>
      rw [List.filter_cons_of_neg (by simp [ha])]
      simp [Function.comp_def, ha]

/-- The part of a list without duplicates that lies in a sublist is that sublist. -/
theorem filter_mem_of_sublist {α : Type} [DecidableEq α] {l l' : List α} (h : l.Sublist l')
    (hnodup : l'.Nodup) : l'.filter (fun a => a ∈ l) = l := by
  induction h with
  | slnil => rfl
  | @cons l l' a h ih =>
    obtain ⟨ha, hl'⟩ := List.nodup_cons.mp hnodup
    have hout : a ∉ l := fun hmem => ha (h.subset hmem)
    rw [List.filter_cons_of_neg (by simp [hout]), ih hl']
  | @cons_cons l l' a h ih =>
    obtain ⟨ha, hl'⟩ := List.nodup_cons.mp hnodup
    have hrest : l'.filter (fun b => b ∈ a :: l) = l'.filter fun b => b ∈ l := by
      refine List.filter_congr fun b hb => ?_
      have hne : b ≠ a := fun heq => ha (heq ▸ hb)
      simp [hne]
    rw [List.filter_cons_of_pos (by simp), hrest, ih hl']

/-- What holds between any two elements of a list holds of its pairs. -/
theorem pairwise_iff_forall_mem_pairsOf {α : Type} {r : α → α → Prop} {l : List α} :
    l.Pairwise r ↔ ∀ pair ∈ pairsOf l, r pair.1 pair.2 := by
  induction l with
  | nil => simp [pairsOf]
  | cons a l ih =>
    simp only [List.pairwise_cons, pairsOf, List.mem_append, List.mem_map, or_imp, forall_and,
      forall_exists_index, and_imp, forall_apply_eq_imp_iff₂, ih]

/-! ## Exchanges -/

theorem exchange_append_apply (pairs pairs' : List (ActionId × ActionId)) (id : ActionId) :
    exchange (pairs ++ pairs') id = exchange pairs (exchange pairs' id) := by
  rw [exchange, List.map_append, List.prod_append]
  rfl

/-- Exchanging the queue of an id with those of others, one after the other, passes it to the last
of them, and moves the queue of every other one place back. -/
theorem map_exchange_row {a : ActionId} {l : List ActionId} (h : (a :: l).Nodup) :
    (l ++ [a]).map (exchange (l.map (a, ·))) = a :: l := by
  induction l with
  | nil => rfl
  | cons b l ih =>
    obtain ⟨ha, hb, hl⟩ : a ∉ b :: l ∧ b ∉ l ∧ l.Nodup := by simpa using h
    rw [List.mem_cons, not_or] at ha
    have hb' : exchange (l.map (a, ·)) b = b := by
      refine exchange_of_not_mem fun pair hpair => ?_
      obtain ⟨c, hc, rfl⟩ := List.mem_map.mp hpair
      exact ⟨Ne.symm ha.1, fun heq => hb (heq ▸ hc)⟩
    have hswap : (a :: l).map (Equiv.swap a b) = b :: l := by
      have hrest : ∀ c ∈ l, Equiv.swap a b c = c := fun c hc =>
        Equiv.swap_apply_of_ne_of_ne (fun heq => ha.2 (heq ▸ hc)) fun heq => hb (heq ▸ hc)
      rw [List.map_cons, Equiv.swap_apply_left, List.map_congr_left hrest, List.map_id']
    calc (b :: l ++ [a]).map (exchange ((b :: l).map (a, ·)))
        = Equiv.swap a b (exchange (l.map (a, ·)) b) ::
            ((l ++ [a]).map (exchange (l.map (a, ·)))).map (Equiv.swap a b) := by
          simp [Function.comp_def]
      _ = a :: b :: l := by
          rw [hb', Equiv.swap_apply_right, ih (List.nodup_cons.mpr ⟨ha.2, hl⟩), hswap]

/-- Exchanges of all pairs of a list, row by row, reverse the queues. -/
theorem map_exchange_pairsOf {l : List ActionId} (h : l.Nodup) :
    l.map (exchange (pairsOf l)) = l.reverse := by
  induction l with
  | nil => rfl
  | cons a l ih =>
    obtain ⟨ha, hl⟩ := List.nodup_cons.mp h
    have ha' : exchange (pairsOf l) a = a :=
      exchange_of_not_mem fun pair hpair =>
        ⟨fun heq => ha (heq ▸ (mem_of_mem_pairsOf hpair).1),
          fun heq => ha (heq ▸ (mem_of_mem_pairsOf hpair).2)⟩
    -- The later rows reverse the rest, and the first row then rotates what they leave.
    calc (a :: l).map (exchange (pairsOf (a :: l)))
        = (exchange (pairsOf l) a :: l.map (exchange (pairsOf l))).map
            (exchange (l.map (a, ·))) := by
          simp [pairsOf, exchange_append_apply]
      _ = ((l ++ [a]).map (exchange (l.map (a, ·)))).reverse := by
          rw [ha', ih hl, ← List.map_reverse, List.reverse_append]
          rfl
      _ = (a :: l).reverse := by rw [map_exchange_row h]

/-- Where no exchange leads out of a set of ids, the exchanges within it alone decide what becomes
of its queues, and they stay in it. -/
theorem exchange_filter {p : ActionId → Bool} {pairs : List (ActionId × ActionId)}
    (h : ∀ pair ∈ pairs, p pair.1 = p pair.2) {id : ActionId} (hid : p id = true) :
    exchange pairs id = exchange (pairs.filter fun pair => p pair.1 && p pair.2) id ∧
      p (exchange pairs id) = true := by
  induction pairs with
  | nil => exact ⟨rfl, hid⟩
  | cons pair pairs ih =>
    obtain ⟨hrest, hin⟩ := ih fun pair hpair => h pair (.tail _ hpair)
    have hsame := h pair (.head _)
    cases hfirst : p pair.1 with
    | true =>
      rw [List.filter_cons_of_pos (by simp [← hsame, hfirst]), exchange_cons_apply,
        exchange_cons_apply, ← hrest]
      refine ⟨rfl, ?_⟩
      rw [Equiv.swap_apply_def]
      split
      · exact hsame ▸ hfirst
      · split
        · exact hfirst
        · exact hin
    | false =>
      have hkept : Equiv.swap pair.1 pair.2 (exchange pairs id) = exchange pairs id := by
        refine Equiv.swap_apply_of_ne_of_ne ?_ ?_
        · rintro heq
          simp [heq, hfirst] at hin
        · rintro heq
          simp [heq, ← hsame, hfirst] at hin
      rw [List.filter_cons_of_neg (by simp [hfirst]), exchange_cons_apply, hkept]
      exact ⟨hrest, hin⟩

end SpriteStage
