import SentinelApex.Lib.Task

/-!
# Tasks within tasks

A task that calls one interface can run as part of a task that calls a larger one: `Task.embed f g
t` issues `f c` where `t` issues `c`, and reads the reply through `g`. It does within the larger
world what `t` does alone, if the larger handler simulates its own (`Task.embed_run`), and its calls
are the images of those of `t` (`Task.Uses.embed`).

A call may also stand for a whole task: `Task.expand f t` runs `f c` where `t` issues `c`. What each
of these tasks keeps, the expanded task keeps (`Task.expand_keeps`).
-/

namespace Async

variable {C C' : Type} {R : C → Type} {R' : C' → Type} {ε α β σ σ' : Type}

namespace Task

/-- The calls of a task, issued to a larger interface. -/
def embed (f : C → C') (g : ∀ c, R' (f c) → R c) : Task C R ε α → Task C' R' ε α
  | .done a => .done a
  | .fail e => .fail e
  | .await c k => .await (f c) fun r => (k (r.map (g c))).embed f g

variable {f : C → C'} {g : ∀ c, R' (f c) → R c}

theorem embed_run (h : Handler C R ε σ) (h' : Handler C' R' ε σ') (Rel : σ → σ' → Prop)
    (hsim : ∀ c s s', Rel s s' →
      (h' (f c) s').1.map (g c) = (h c s).1 ∧ Rel (h c s).2 (h' (f c) s').2)
    (t : Task C R ε α) {s : σ} {s' : σ'} (hs : Rel s s') :
    ((t.embed f g).run h' s').1 = (t.run h s).1 ∧
      Rel (t.run h s).2 ((t.embed f g).run h' s').2 := by
  induction t generalizing s s' with
  | done a | fail e => exact ⟨rfl, hs⟩
  | await c k ih =>
    obtain ⟨hreply, hnext⟩ := hsim c s s' hs
    rw [embed, run_await, run_await, hreply]
    exact ih _ hnext

/-- What a task guarantees alone, it guarantees within the larger world, as long as related events
say the same. -/
theorem embed_wp {h : Handler C R ε σ} {h' : Handler C' R' ε σ'} (Rel : σ → σ' → Prop)
    {H G : Event C R ε σ → Prop} {H' G' : Event C' R' ε σ' → Prop}
    (hsim : ∀ c s s', Rel s s' →
      (h' (f c) s').1.map (g c) = (h c s).1 ∧ Rel (h c s).2 (h' (f c) s').2)
    (hH : ∀ c s s', Rel s s' → H' ⟨s', f c, (h' (f c) s').1, (h' (f c) s').2⟩ →
      H ⟨s, c, (h c s).1, (h c s).2⟩)
    (hG : ∀ c s s', Rel s s' → Rel (h c s).2 (h' (f c) s').2 →
      G ⟨s, c, (h c s).1, (h c s).2⟩ → G' ⟨s', f c, (h' (f c) s').1, (h' (f c) s').2⟩)
    {post : Except ε α → σ → Prop} {post' : Except ε α → σ' → Prop}
    (hpost : ∀ r s s', Rel s s' → post r s → post' r s') {t : Task C R ε α} {s : σ} {s' : σ'}
    (hs : Rel s s') (ht : t.wp h H G post s) : (t.embed f g).wp h' H' G' post' s' := by
  induction t generalizing s s' with
  | done a | fail e => exact hpost _ _ _ hs ht
  | await c k ih =>
    intro hevent
    obtain ⟨hreply, hnext⟩ := hsim c s s' hs
    obtain ⟨hguard, hrest⟩ := ht (hH c s s' hs hevent)
    refine ⟨hG c s s' hs hnext hguard, ?_⟩
    rw [← hreply] at hrest
    exact ih _ hnext hrest

theorem Uses.embed {p : C' → Prop} {t : Task C R ε α} (ht : t.Uses fun c => p (f c)) :
    (t.embed f g).Uses p := by
  induction t with
  | done a | fail e => trivial
  | await c k ih => exact ⟨ht.1, fun r => ih _ (ht.2 _)⟩

/-- The result or the exception of a task, as a value. -/
def attempt : Task C R ε α → Task C R ε (Except ε α)
  | .done a => .done (.ok a)
  | .fail e => .done (.error e)
  | .await c k => .await c fun r => (k r).attempt

theorem attempt_run (h : Handler C R ε σ) (t : Task C R ε α) (s : σ) :
    t.attempt.run h s = (.ok (t.run h s).1, (t.run h s).2) := by
  induction t generalizing s with
  | done a | fail e => rfl
  | await c k ih => exact ih _ _

/-- Every call is replaced by the task that it stands for. -/
def expand (f : ∀ c, Task C' R' ε (R c)) : Task C R ε α → Task C' R' ε α
  | .done a => .done a
  | .fail e => .fail e
  | .await c k => (f c).attempt >>= fun r => (k r).expand f

theorem expand_keeps {f : ∀ c, Task C' R' ε (R c)} {h : Handler C' R' ε σ} {I : σ → Prop}
    (hI : ∀ c s, I s → I ((f c).run h s).2) (t : Task C R ε α) {s : σ} (hs : I s) :
    I ((t.expand f).run h s).2 := by
  induction t generalizing s with
  | done a | fail e => exact hs
  | await c k ih =>
    rw [expand, run_bind, attempt_run]
    exact ih _ (hI c s hs)

end Task

end Async
