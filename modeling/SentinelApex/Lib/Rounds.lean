import Mathlib.Data.List.Forall2
import Mathlib.Data.List.Flatten

/-!
# Loops whose rounds may fail

A loop that computes one result for each element and stops at the first failure is `List.mapM`, in
`Option` or in `Except`. It returns exactly when every round does (`mapM_eq_some_iff`,
`mapM_eq_ok_iff`), and what it returns for a permuted list is the same up to order
(`sameUpToOrder_mapM`).
-/

namespace Rounds

variable {α β ε : Type}

section Forall₂

variable {R : α → β → Prop} {xs : List α} {ys : List β}

theorem exists_of_mem_left (h : List.Forall₂ R xs ys) {x : α} (hx : x ∈ xs) : ∃ y ∈ ys, R x y := by
  induction h with
  | nil => cases hx
  | cons hfirst hrest ih =>
    rcases List.mem_cons.1 hx with rfl | hx
    · exact ⟨_, List.mem_cons_self, hfirst⟩
    · obtain ⟨y, hy, hxy⟩ := ih hx
      exact ⟨y, List.mem_cons_of_mem _ hy, hxy⟩

theorem exists_of_mem_right (h : List.Forall₂ R xs ys) {y : β} (hy : y ∈ ys) : ∃ x ∈ xs, R x y :=
  exists_of_mem_left h.flip hy

end Forall₂

variable {f : α → Except ε β} {xs : List α}

theorem mapM_eq_some_iff {f : α → Option β} {ys : List β} :
    xs.mapM f = some ys ↔ List.Forall₂ (fun x y => f x = some y) xs ys := by
  induction xs generalizing ys with
  | nil => simp [eq_comm]
  | cons x xs ih =>
    rw [List.mapM_cons, List.forall₂_cons_left_iff]
    simp only [Option.bind_eq_bind, Option.bind_eq_some_iff, Option.pure_def, Option.some.injEq, ih]
    constructor
    · rintro ⟨y, hy, ys', hys, rfl⟩
      exact ⟨y, ys', hy, hys, rfl⟩
    · rintro ⟨y, ys', hy, hys, rfl⟩
      exact ⟨y, hy, ys', hys, rfl⟩

theorem mapM_isSome {f : α → Option β} (h : ∀ x ∈ xs, (f x).isSome) :
    (xs.mapM f).isSome := by
  induction xs with
  | nil => rfl
  | cons x xs ih =>
    obtain ⟨y, hy⟩ := Option.isSome_iff_exists.1 (h x List.mem_cons_self)
    obtain ⟨ys, hys⟩ :=
      Option.isSome_iff_exists.1 (ih fun x' hx' => h x' (List.mem_cons_of_mem _ hx'))
    simp [List.mapM_cons, hy, hys]

theorem mapM_eq_ok_iff {ys : List β} :
    xs.mapM f = .ok ys ↔ List.Forall₂ (fun x y => f x = .ok y) xs ys := by
  induction xs generalizing ys with
  | nil => simp [pure, Except.pure, eq_comm]
  | cons x xs ih =>
    rw [List.mapM_cons, List.forall₂_cons_left_iff]
    constructor
    · intro h
      cases hf : f x with
      | error e => rw [hf] at h; cases h
      | ok y =>
        cases hrest : xs.mapM f with
        | error e => rw [hf, hrest] at h; cases h
        | ok rest =>
          rw [hf, hrest] at h
          exact ⟨y, rest, rfl, ih.1 hrest, (Except.ok.inj h).symm⟩
    · rintro ⟨y, rest, hf, hrest, rfl⟩
      rw [hf, ih.2 hrest]
      rfl

theorem mapM_eq_ok_of_forall {y : β} (h : ∀ x ∈ xs, f x = .ok y) :
    xs.mapM f = .ok (xs.map fun _ => y) := by
  refine mapM_eq_ok_iff.2 (List.forall₂_map_right_iff.2 ?_)
  exact List.forall₂_same.2 h

/-- The same list up to order, or an exception on both sides. -/
def SameUpToOrder : Except ε (List α) → Except ε (List α) → Prop
  | .ok xs, .ok ys => xs.Perm ys
  | .error _, .error _ => True
  | .ok _, .error _ => False
  | .error _, .ok _ => False

theorem sameUpToOrder_refl (x : Except ε (List α)) : SameUpToOrder x x := by
  cases x with
  | ok xs => exact List.Perm.refl xs
  | error e => trivial

theorem SameUpToOrder.trans {x y z : Except ε (List α)} (hxy : SameUpToOrder x y)
    (hyz : SameUpToOrder y z) : SameUpToOrder x z := by
  cases x <;> cases y <;> cases z <;> simp_all only [SameUpToOrder]
  exact List.Perm.trans hxy hyz

theorem sameUpToOrder_mapM {ys : List α} (h : xs.Perm ys) :
    SameUpToOrder (xs.mapM f) (ys.mapM f) := by
  induction h with
  | nil => exact sameUpToOrder_refl _
  | cons x hperm ih =>
    rename_i xs ys
    rw [List.mapM_cons, List.mapM_cons]
    cases f x with
    | error e => trivial
    | ok y =>
      revert ih
      cases List.mapM f xs <;> cases List.mapM f ys <;> intro ih
      · trivial
      · exact ih
      · exact ih
      · exact List.Perm.cons y ih
  | swap x x' xs =>
    simp only [List.mapM_cons]
    cases f x <;> cases f x' <;> cases List.mapM f xs <;> try trivial
    exact List.Perm.swap _ _ _
  | trans _ _ ih ih' => exact ih.trans ih'

theorem SameUpToOrder.flatten_append {x x' y y' : Except ε (List (List α))}
    (hx : SameUpToOrder x x') (hy : SameUpToOrder y y') :
    SameUpToOrder (do let xs ← x; let ys ← y; return xs.flatten ++ ys.flatten)
      (do let xs ← x'; let ys ← y'; return xs.flatten ++ ys.flatten) := by
  cases x <;> cases x'
  case error.error => trivial
  case error.ok => exact False.elim hx
  case ok.error => exact False.elim hx
  case ok.ok xs xs' =>
    cases y <;> cases y'
    case error.error => trivial
    case error.ok => exact hy
    case ok.error => exact hy
    case ok.ok ys ys' => exact List.Perm.append (List.Perm.flatten hx) (List.Perm.flatten hy)

end Rounds
