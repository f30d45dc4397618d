import Mathlib.Init

/-!
# Conditions along a run

A run applies steps to a state one after the other. `Along next p s steps` says that every step
meets `p` in the state before it, and `Along.invariant` that what such steps preserve holds in the
state that the run reaches.
-/

namespace Runs

variable {σ τ : Type}

/-- Every step of a run meets a condition in the state before it. -/
def Along (next : σ → τ → σ) (p : σ → τ → Prop) : σ → List τ → Prop
  | _, [] => True
  | s, t :: ts => p s t ∧ Along next p (next s t) ts

def decidableAlong (next : σ → τ → σ) (p : σ → τ → Prop) [∀ s t, Decidable (p s t)] :
    ∀ s ts, Decidable (Along next p s ts)
  | _, [] => isTrue trivial
  | s, t :: ts => @instDecidableAnd _ _ _ (decidableAlong next p (next s t) ts)

instance (next : σ → τ → σ) (p : σ → τ → Prop) [∀ s t, Decidable (p s t)] (s : σ) (ts : List τ) :
    Decidable (Along next p s ts) :=
  decidableAlong next p s ts

variable {next : σ → τ → σ} {p q : σ → τ → Prop} {s : σ} {ts : List τ}

theorem Along.mono (h : ∀ s t, p s t → q s t) (hp : Along next p s ts) : Along next q s ts := by
  induction ts generalizing s with
  | nil => trivial
  | cons t ts ih => exact ⟨h _ _ hp.1, ih hp.2⟩

variable {I : σ → Prop}

theorem Along.invariant (hstep : ∀ s t, I s → p s t → I (next s t)) (hp : Along next p s ts)
    (hs : I s) : I (ts.foldl next s) := by
  induction ts generalizing s with
  | nil => exact hs
  | cons t ts ih => exact ih hp.2 (hstep s t hs hp.1)

theorem Along.mono_of_invariant (hstep : ∀ s t, I s → p s t → I (next s t))
    (h : ∀ s t, I s → p s t → q s t) (hp : Along next p s ts) (hs : I s) : Along next q s ts := by
  induction ts generalizing s with
  | nil => trivial
  | cons t ts ih => exact ⟨h s t hs hp.1, ih hp.2 (hstep s t hs hp.1)⟩

theorem along_append_iff {us : List τ} :
    Along next p s (ts ++ us) ↔ Along next p s ts ∧ Along next p (ts.foldl next s) us := by
  induction ts generalizing s with
  | nil => simp [Along]
  | cons t ts ih => rw [List.cons_append, Along, Along, ih, and_assoc, List.foldl_cons]

theorem Along.of_append {us : List τ} (hp : Along next p s (ts ++ us)) : Along next p s ts :=
  (along_append_iff.1 hp).1

/-- A run meets a condition exactly if each of its steps does, after the steps before it. -/
theorem along_iff_forall_append :
    Along next p s ts ↔ ∀ pre t post, ts = pre ++ t :: post → p (pre.foldl next s) t := by
  induction ts generalizing s with
  | nil => simp [Along]
  | cons t ts ih =>
    rw [Along, ih]
    constructor
    · rintro ⟨ht, hts⟩ pre t' post heq
      cases pre with
      | nil =>
        obtain ⟨rfl, -⟩ := List.cons.inj heq
        exact ht
      | cons u pre =>
        rw [List.cons_append] at heq
        obtain ⟨rfl, hrest⟩ := List.cons.inj heq
        exact hts pre t' post hrest
    · intro h
      exact ⟨h [] t ts rfl, fun pre t' post heq => h (t :: pre) t' post (congrArg _ heq)⟩

/-- A property that no step restores holds at the end of a run exactly when every step keeps it. -/
theorem holds_foldl_iff (hback : ∀ s t, I (next s t) → I s)
    (hstep : ∀ s t, I s → (I (next s t) ↔ p s t)) (hs : I s) :
    I (ts.foldl next s) ↔ Along next p s ts := by
  have restored : ∀ (ts : List τ) (s : σ), I (ts.foldl next s) → I s := by
    intro ts
    induction ts with
    | nil => exact fun s h => h
    | cons t ts ih => exact fun s h => hback s t (ih _ h)
  induction ts generalizing s with
  | nil => exact iff_of_true hs trivial
  | cons t ts ih =>
    constructor
    · intro h
      have hnext : I (next s t) := restored ts _ h
      exact ⟨(hstep s t hs).1 hnext, (ih hnext).1 h⟩
    · rintro ⟨ht, hts⟩
      exact (ih ((hstep s t hs).2 ht)).2 hts

end Runs
