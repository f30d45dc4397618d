import Mathlib.Data.List.Nodup
import Mathlib.Data.List.Chain

/-!
# Orders in which everything comes after what it depends on

`Sorted R order` says that no element is listed twice and that every element comes after all that it
depends on. Such an order grows at its end (`Sorted.concat`), and where there is one that lists
every element with dependencies, no walk along the dependencies comes back (`Sorted.nodup_walk`).
-/

namespace TopologicalOrder

variable {α : Type} {R : α → α → Prop} {order : List α} {a b : α}

/-- `R a b` says that `a` depends on `b`. -/
structure Sorted (R : α → α → Prop) (order : List α) : Prop where
  nodup : order.Nodup
  mem_before : ∀ before a after, order = before ++ a :: after → ∀ b, R a b → b ∈ before

theorem sorted_nil : Sorted R [] :=
  ⟨List.nodup_nil, fun before a after h => absurd h (by simp)⟩

theorem Sorted.concat (h : Sorted R order) (hnew : a ∉ order) (hdeps : ∀ b, R a b → b ∈ order) :
    Sorted R (order ++ [a]) := by
  refine ⟨?_, fun before c after hsplit b hb => ?_⟩
  · rw [List.nodup_append]
    refine ⟨h.nodup, List.nodup_singleton a, fun b hb c hc => ?_⟩
    rw [List.mem_singleton.1 hc]
    exact ne_of_mem_of_not_mem hb hnew
  · rcases List.eq_nil_or_concat after with rfl | ⟨after, last, rfl⟩
    · obtain ⟨rfl, hlast⟩ := List.append_inj' hsplit rfl
      obtain rfl : a = c := List.singleton_inj.1 hlast
      exact hdeps b hb
    · rw [List.concat_eq_append, ← List.cons_append, ← List.append_assoc] at hsplit
      obtain ⟨hinit, -⟩ := List.append_inj' hsplit rfl
      exact h.mem_before before c after hinit b hb

variable [DecidableEq α]

theorem Sorted.idxOf_lt (h : Sorted R order) (ha : a ∈ order) (hab : R a b) :
    order.idxOf b < order.idxOf a := by
  obtain ⟨before, after, rfl⟩ := List.append_of_mem ha
  have hb : b ∈ before := h.mem_before before a after rfl b hab
  have ha' : a ∉ before := fun hmem =>
    (List.nodup_append.1 h.nodup).2.2 a hmem a List.mem_cons_self rfl
  rw [List.idxOf_append_of_mem hb, List.idxOf_append_of_notMem ha']
  exact (List.idxOf_lt_length_of_mem hb).trans_le (Nat.le_add_right _ _)

theorem Sorted.nodup_walk (h : Sorted R order) (hall : ∀ a b, R a b → a ∈ order) {walk : List α}
    (hwalk : walk.IsChain R) : walk.Nodup := by
  have hdown : walk.IsChain fun a b => order.idxOf b < order.idxOf a :=
    hwalk.imp fun a b hab => h.idxOf_lt (hall a b hab) hab
  have : IsTrans α fun a b => order.idxOf b < order.idxOf a :=
    ⟨fun a b c hab hbc => hbc.trans hab⟩
  refine (List.isChain_iff_pairwise.1 hdown).imp fun hlt => ?_
  rintro rfl
  exact lt_irrefl _ hlt

end TopologicalOrder
