import Mathlib.Data.List.Basic
import Mathlib.Tactic.NormNum

/-!
# Texts joined by a separator

An identifier that joins several fields with a separator can be taken apart again from either side
as long as the fields read so far do not contain the separator. The decimal text of a number
contains nothing but digits and possibly a minus sign.
-/

namespace Separated

/-- A separator that occurs in neither tail separates both lists at the same place. -/
theorem append_cons_inj_of_notMem_tails {α : Type} {x₁ x₂ z₁ z₂ : List α} {a : α}
    (h₁ : a ∉ z₁) (h₂ : a ∉ z₂) (h : x₁ ++ a :: z₁ = x₂ ++ a :: z₂) : x₁ = x₂ ∧ z₁ = z₂ := by
  rcases List.append_eq_append_iff.1 h with ⟨c, hx, hz⟩ | ⟨c, hx, hz⟩
  · cases c with
    | nil => simp_all
    | cons b c =>
      rw [List.cons_append, List.cons.injEq] at hz
      exact absurd (by rw [hz.2]; simp) h₁
  · cases c with
    | nil => simp_all
    | cons b c =>
      rw [List.cons_append, List.cons.injEq] at hz
      exact absurd (by rw [hz.2]; simp) h₂

theorem append_cons_inj_of_notMem_heads {α : Type} {x₁ x₂ z₁ z₂ : List α} {a : α}
    (h₁ : a ∉ x₁) (h₂ : a ∉ x₂) (h : x₁ ++ a :: z₁ = x₂ ++ a :: z₂) : x₁ = x₂ ∧ z₁ = z₂ := by
  have hrev : z₁.reverse ++ a :: x₁.reverse = z₂.reverse ++ a :: x₂.reverse := by
    simpa using congrArg List.reverse h
  obtain ⟨hz, hx⟩ := append_cons_inj_of_notMem_tails (by simpa using h₁) (by simpa using h₂) hrev
  exact ⟨List.reverse_injective hx, List.reverse_injective hz⟩

section Pieces

variable {α : Type} [DecidableEq α] {sep : α}

omit [DecidableEq α] in
theorem intercalate_append {xs ys : List (List α)} (hxs : xs ≠ []) (hys : ys ≠ []) :
    [sep].intercalate (xs ++ ys) = [sep].intercalate xs ++ sep :: [sep].intercalate ys := by
  induction xs with
  | nil => exact absurd rfl hxs
  | cons x xs ih =>
    cases xs with
    | nil => simp [List.intercalate_cons_of_ne_nil hys]
    | cons next rest =>
      have hrest := ih (List.cons_ne_nil _ _)
      rw [List.cons_append] at hrest
      rw [List.cons_append, List.cons_append, List.intercalate_cons_cons, hrest,
        List.intercalate_cons_cons]
      simp

variable {fields : List (List α)}

theorem splitOn_intercalate_eq_flatMap (hfields : fields ≠ []) :
    ([sep].intercalate fields).splitOn sep = fields.flatMap fun field => field.splitOn sep := by
  induction fields with
  | nil => exact absurd rfl hfields
  | cons field fields ih =>
    cases fields with
    | nil => simp
    | cons next rest =>
      rw [List.intercalate_cons_cons, List.append_assoc, List.singleton_append,
        List.splitOn_append_cons_self, ih (List.cons_ne_nil _ _)]
      exact List.flatMap_cons.symm

theorem eq_of_splitOn_eq {xs ys : List α} (h : xs.splitOn sep = ys.splitOn sep) : xs = ys := by
  have hjoin : [sep].intercalate (xs.splitOn sep) = xs := List.intercalate_splitOn sep
  rw [← hjoin, h, List.intercalate_splitOn]

theorem length_le_length_flatMap_splitOn (sep : α) (fields : List (List α)) :
    fields.length ≤ (fields.flatMap fun field => field.splitOn sep).length := by
  induction fields with
  | nil => exact le_rfl
  | cons field fields ih =>
    have hpiece : 0 < (field.splitOn sep).length :=
      List.length_pos_of_ne_nil (List.splitOn_ne_nil sep field)
    rw [List.flatMap_cons, List.length_cons, List.length_append]
    omega

theorem flatMap_splitOn_eq_self
    (h : (fields.flatMap fun field => field.splitOn sep).length ≤ fields.length) :
    (fields.flatMap fun field => field.splitOn sep) = fields := by
  induction fields with
  | nil => rfl
  | cons field fields ih =>
    have hpiece : 0 < (field.splitOn sep).length :=
      List.length_pos_of_ne_nil (List.splitOn_ne_nil sep field)
    have hrest := length_le_length_flatMap_splitOn sep fields
    rw [List.flatMap_cons, List.length_append, List.length_cons] at h
    obtain ⟨piece, hpieces⟩ := List.length_eq_one_iff.1 (show (field.splitOn sep).length = 1 by omega)
    have hfield : piece = field := by
      have hjoin : [sep].intercalate (field.splitOn sep) = field := List.intercalate_splitOn sep
      rwa [hpieces, List.intercalate_singleton] at hjoin
    rw [List.flatMap_cons, hpieces, ih (by omega), hfield]
    rfl

/-- Two lists of as many heads, a mark and a rest that join to the same text are the same, if no head
of the first one contains the separator, and the mark of the second one is no piece of the rest of the
first one, but perhaps its last. -/
theorem heads_mark_rest_inj {heads heads' : List (List α)} {mark mark' rest rest' : List α}
    (hlength : heads'.length = heads.length) (hheads : ∀ head ∈ heads, sep ∉ head)
    (hmark : sep ∉ mark) (hmark' : sep ∉ mark') (hrest : mark' ∉ (rest.splitOn sep).dropLast)
    (h : [sep].intercalate (heads' ++ [mark', rest']) = [sep].intercalate (heads ++ [mark, rest])) :
    heads' = heads ∧ mark' = mark ∧ rest' = rest := by
  have hpieces := congrArg (List.splitOn sep) h
  rw [splitOn_intercalate_eq_flatMap (by simp), splitOn_intercalate_eq_flatMap (by simp),
    List.flatMap_append, List.flatMap_append] at hpieces
  have hself : (heads.flatMap fun head => head.splitOn sep) = heads := by
    apply flatMap_splitOn_eq_self
    rw [List.length_flatMap, List.map_congr_left fun head hhead => by
      rw [List.splitOn_eq_singleton (hheads head hhead), List.length_singleton]]
    simp
  simp only [hself, List.flatMap_cons, List.splitOn_eq_singleton hmark,
    List.splitOn_eq_singleton hmark', List.flatMap_nil, List.append_nil,
    List.singleton_append] at hpieces
  have hcount := length_le_length_flatMap_splitOn sep heads'
  rcases List.append_eq_append_iff.1 hpieces with ⟨c, hc, hc'⟩ | ⟨c, hc, hc'⟩
  · -- The heads of the first list go beyond the pieces of the second ones only if they are equal.
    have hempty : c = [] := by
      apply List.eq_nil_of_length_eq_zero
      have hlen := congrArg List.length hc
      rw [List.length_append] at hlen
      omega
    subst hempty
    rw [List.append_nil] at hc
    rw [List.nil_append, List.cons.injEq] at hc'
    refine ⟨?_, hc'.1, eq_of_splitOn_eq hc'.2⟩
    rw [hc, flatMap_splitOn_eq_self (by rw [← hc, hlength])]
  · cases c with
    | nil =>
      rw [List.append_nil] at hc
      rw [List.nil_append, List.cons.injEq] at hc'
      refine ⟨?_, hc'.1.symm, (eq_of_splitOn_eq hc'.2).symm⟩
      rw [← hc, flatMap_splitOn_eq_self (by rw [hc, hlength])]
    | cons piece c =>
      -- The mark of the second list would be a piece of the rest of the first one.
      rw [List.cons_append, List.cons.injEq] at hc'
      refine absurd ?_ hrest
      rw [hc'.2, List.dropLast_append_of_ne_nil (by simp),
        List.dropLast_cons_of_ne_nil (List.splitOn_ne_nil sep rest')]
      exact List.mem_append_right _ List.mem_cons_self

end Pieces

theorem notMem_natRepr {c : Char} (hc : c.isDigit = false) (n : ℕ) : c ∉ n.repr.toList := by
  intro h
  rw [Nat.toList_repr] at h
  have hdigit := Nat.isDigit_of_mem_toDigits (by norm_num) (le_refl 10) h
  simp [hc] at hdigit

theorem notMem_intRepr {c : Char} (hc : c.isDigit = false) (hminus : c ≠ '-') (k : ℤ) :
    c ∉ (Int.repr k).toList := by
  cases k with
  | ofNat n => exact notMem_natRepr hc n
  | negSucc n => simpa [Int.repr, hminus] using notMem_natRepr hc (n + 1)

theorem natRepr_toList_inj {m n : ℕ} (h : m.repr.toList = n.repr.toList) : m = n := by
  rw [Nat.toList_repr, Nat.toList_repr] at h
  rw [← Nat.ofDigitChars_ten_toDigits (n := m), h, Nat.ofDigitChars_ten_toDigits]

end Separated
