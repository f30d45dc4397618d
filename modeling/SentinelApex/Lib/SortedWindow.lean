import Mathlib.Data.List.Infix
import Mathlib.Order.Lattice

/-!
# Windows of a sorted list

The rows of a sorted list whose keys lie between two bounds stand next to each other, so that what
holds from row to row in the list holds from row to row in the window (`window_infix`).
-/

namespace SortedWindow

variable {α β : Type} [LinearOrder β] {key : α → β} {l : List α}

section

variable (h : l.Pairwise fun a b => key a < key b)

include h

theorem filter_le_isPrefix (stop : β) :
    l.filter (fun a => decide (key a ≤ stop)) <+: l := by
  induction l with
  | nil => exact List.nil_prefix
  | cons a l ih =>
    obtain ⟨ha, hl⟩ := List.pairwise_cons.1 h
    by_cases hstop : key a ≤ stop
    · rw [List.filter_cons_of_pos (by simpa using hstop)]
      exact List.cons_prefix_cons.2 ⟨rfl, ih hl⟩
    · have hnone : (a :: l).filter (fun b => decide (key b ≤ stop)) = [] := by
        rw [List.filter_eq_nil_iff]
        intro b hb
        rw [decide_eq_true_eq, not_le]
        rcases List.mem_cons.1 hb with rfl | hb
        · exact not_le.1 hstop
        · exact (not_le.1 hstop).trans (ha b hb)
      rw [hnone]
      exact List.nil_prefix

theorem filter_ge_suffix (start : β) :
    l.filter (fun a => decide (start ≤ key a)) <:+ l := by
  induction l with
  | nil => exact List.nil_suffix
  | cons a l ih =>
    obtain ⟨ha, hl⟩ := List.pairwise_cons.1 h
    by_cases hstart : start ≤ key a
    · have hall : (a :: l).filter (fun b => decide (start ≤ key b)) = a :: l := by
        rw [List.filter_eq_self]
        intro b hb
        rw [decide_eq_true_eq]
        rcases List.mem_cons.1 hb with rfl | hb
        · exact hstart
        · exact hstart.trans (ha b hb).le
      rw [hall]
    · rw [List.filter_cons_of_neg (by simpa using hstart)]
      exact (ih hl).trans (List.suffix_cons a l)

theorem window_infix (start stop : β) :
    l.filter (fun a => decide (start ≤ key a) && decide (key a ≤ stop)) <:+: l := by
  have hfilter : l.filter (fun a => decide (start ≤ key a) && decide (key a ≤ stop)) =
      (l.filter fun a => decide (key a ≤ stop)).filter fun a => decide (start ≤ key a) := by
    rw [List.filter_filter]
  rw [hfilter]
  exact (filter_ge_suffix (h.filter _) start).isInfix.trans (filter_le_isPrefix h stop).isInfix

end

end SortedWindow
