import Mathlib.Algebra.Order.Ring.Abs
import Mathlib.Tactic.Linarith
import Mathlib.Tactic.Ring

/-!
# Clamping to an interval

`clamp lo hi x` moves `x` into the interval from `lo` to `hi`; when the interval is empty, the lower
end wins. It is monotone in all three arguments (`clamp_mono`) and passes through an
order-reversing map as `min` and `max` change places (`map_clamp`).

Two shares of a total that each have an interval: clamping the first, the rest as the second, and
the rest of that as the first again ends in a split of the total whenever there is one at all
(`clamp_rest_add`).
-/

namespace Clamp

variable {α : Type} [LinearOrder α]

def clamp (lo hi x : α) : α := max lo (min hi x)

variable {l : List α} {m x hi lo : α}

theorem clamp_mono {lo' hi' y : α} (hlo : lo ≤ lo') (hhi : hi ≤ hi') (h : x ≤ y) :
    clamp lo hi x ≤ clamp lo' hi' y := max_le_max hlo (min_le_min hhi h)

theorem le_clamp (lo hi x : α) : lo ≤ clamp lo hi x := le_max_left _ _

theorem clamp_le (h : lo ≤ hi) (x : α) : clamp lo hi x ≤ hi :=
  max_le h (min_le_left _ _)

theorem clamp_le_self (h : lo < clamp lo hi x) : clamp lo hi x ≤ x := by
  rcases lt_max_iff.1 h with h | h
  · exact absurd h (lt_irrefl lo)
  · rw [clamp, max_eq_right h.le]
    exact min_le_right _ _

theorem self_le_clamp (h : clamp lo hi x < hi) : x ≤ clamp lo hi x := by
  have hmin : min hi x < hi := (le_max_right _ _).trans_lt h
  rcases min_lt_iff.1 hmin with h | h
  · exact absurd h (lt_irrefl hi)
  · rw [clamp, min_eq_right h.le]
    exact le_max_right _ _

theorem clamp_of_mem (hlo : lo ≤ x) (hhi : x ≤ hi) : clamp lo hi x = x := by
  rw [clamp, min_eq_right hhi, max_eq_right hlo]

theorem clamp_le_iff : clamp lo hi x ≤ m ↔ lo ≤ m ∧ (hi ≤ m ∨ x ≤ m) := by
  rw [clamp, max_le_iff, min_le_iff]

theorem clamp_cases (lo hi x : α) :
    clamp lo hi x = x ∨ (x < lo ∧ clamp lo hi x = lo) ∨ (hi < x ∧ clamp lo hi x = max lo hi) := by
  rcases le_or_gt x hi with hhi | hhi
  · rcases le_or_gt lo x with hlo | hlo
    · exact Or.inl (clamp_of_mem hlo hhi)
    · exact Or.inr (Or.inl ⟨hlo, by rw [clamp, min_eq_right hhi, max_eq_left hlo.le]⟩)
  · exact Or.inr (Or.inr ⟨hhi, by rw [clamp, min_eq_left hhi.le]⟩)

theorem map_clamp {f : α → α} (hf : Antitone f) (lo hi x : α) :
    f (clamp lo hi x) = min (f lo) (max (f hi) (f x)) := by
  rw [clamp, hf.map_max, hf.map_min]

theorem le_foldl_min_iff : m ≤ l.foldl min x ↔ m ≤ x ∧ ∀ y ∈ l, m ≤ y := by
  induction l generalizing x with
  | nil => simp
  | cons y l ih => rw [List.foldl_cons, ih, le_min_iff, List.forall_mem_cons, and_assoc]

theorem foldl_min_le_iff : l.foldl min x ≤ m ↔ x ≤ m ∨ ∃ y ∈ l, y ≤ m := by
  induction l generalizing x with
  | nil => simp
  | cons y l ih => simp [ih, or_assoc]

theorem foldl_min_le_of_mem {y : α} (h : y ∈ l) : l.foldl min x ≤ y :=
  foldl_min_le_iff.2 (Or.inr ⟨y, h, le_rfl⟩)

theorem foldl_min_of_least (hm : m ∈ l) (hle : ∀ y ∈ l, m ≤ y) (x : α) :
    l.foldl min x = min x m := by
  apply eq_of_forall_le_iff
  intro c
  rw [le_foldl_min_iff, le_min_iff]
  exact and_congr_right fun _ => ⟨fun h => h m hm, fun h y hy => h.trans (hle y hy)⟩

section Split

variable [Field α] [IsStrictOrderedRing α] {lo hi lo' hi' total ε : α} {r : α → α}

/-- With a monotone rounding that keeps the ends of the first interval, the shares split the total
up to the error of one rounding. -/
theorem abs_clamp_rest_le (hr : Monotone r) (hlo : r lo = lo) (hhi : r hi = hi) (h : lo ≤ hi)
    (hlow : lo + lo' ≤ total) (hhigh : total ≤ hi + hi') {c t : α} (hc : lo ≤ c ∧ c ≤ hi)
    (ht : t = clamp lo' hi' (r (total - c)))
    (herror : ∀ y ∈ [total - t, total - lo, total - hi], |r y - y| ≤ ε) :
    |clamp lo hi (r (total - t)) + t - total| ≤ ε := by
  rcases clamp_cases lo hi (r (total - t)) with heq | ⟨hlt, heq⟩ | ⟨hlt, heq⟩
  · have hε := herror (total - t) (by simp)
    rw [heq]
    rwa [show r (total - t) - (total - t) = r (total - t) + t - total by ring] at hε
  · -- The rest is too small: the second share is the rounded rest of the lower end.
    have hbelow : total - t < lo := by
      by_contra hge
      have hle := hr (not_lt.1 hge)
      rw [hlo] at hle
      exact absurd hle (not_le.2 hlt)
    have htc : t ≤ r (total - c) := by
      rw [ht]
      apply clamp_le_self
      rw [← ht]
      linarith
    have hmono : r (total - c) ≤ r (total - lo) := hr (by linarith [hc.1])
    have hε := (abs_le.1 (herror (total - lo) (by simp))).2
    rw [heq, abs_le]
    constructor <;> linarith [abs_nonneg (r (total - lo) - (total - lo))]
  · -- The rest is too large: the second share is the rounded rest of the upper end.
    have habove : hi < total - t := by
      by_contra hle
      have hle := hr (not_lt.1 hle)
      rw [hhi] at hle
      exact absurd hle (not_le.2 hlt)
    have hct : r (total - c) ≤ t := by
      rw [ht]
      apply self_le_clamp
      rw [← ht]
      linarith
    have hmono : r (total - hi) ≤ r (total - c) := hr (by linarith [hc.2])
    have hε := (abs_le.1 (herror (total - hi) (by simp))).1
    rw [heq, max_eq_right h, abs_le]
    constructor <;> linarith

theorem clamp_rest_add (h : lo ≤ hi) (hlow : lo + lo' ≤ total) (hhigh : total ≤ hi + hi') (x : α) :
    clamp lo hi (total - clamp lo' hi' (total - clamp lo hi x)) +
      clamp lo' hi' (total - clamp lo hi x) = total := by
  have herror := abs_clamp_rest_le (ε := 0) (r := id) monotone_id rfl rfl h hlow hhigh
    ⟨le_clamp lo hi x, clamp_le h x⟩ rfl (by simp)
  exact sub_eq_zero.1 (abs_nonpos_iff.1 herror)

end Split

end Clamp
