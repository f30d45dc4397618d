import Mathlib.Data.List.Basic

/-!
# Asynchronous functions

A `Task` is an asynchronous function cut at its await points: it has returned (`done`), has thrown
(`fail`), or waits for the answer to a call (`await`). What the calls mean is left to a `Handler`,
a state transformer that answers each of them.

* `Task.run` and `Task.trace` execute one task on its own: the result with the final state, and
  the answered calls (`Event`s) with the states around them.
* `traceAll` executes tasks one after the other; an exception ends the task that raised it.
* `runPool` executes tasks concurrently: the schedule names the task that takes the next step, from
  one await point to the next; `poolEvents` is what happens meanwhile.
-/

namespace Async

/-- An asynchronous function that issues calls `c : C` answered in `R c`, throws exceptions in `ε`
and returns a value of type `α`. -/
inductive Task (C : Type) (R : C → Type) (ε α : Type) where
  | done (a : α)
  | fail (e : ε)
  | await (c : C) (next : Except ε (R c) → Task C R ε α)

/-- A state transformer that answers every call. -/
abbrev Handler (C : Type) (R : C → Type) (ε σ : Type) := (c : C) → σ → Except ε (R c) × σ

/-- An answered call, with the state before and after it. -/
structure Event (C : Type) (R : C → Type) (ε σ : Type) where
  before : σ
  call : C
  reply : Except ε (R call)
  after : σ

/-- The call was answered by an exception. -/
def Event.threw {C : Type} {R : C → Type} {ε σ : Type} (e : Event C R ε σ) : Bool :=
  !e.reply.isOk

variable {C : Type} {R : C → Type} {ε α β σ : Type}

variable {c : C}

namespace Task

def bind : Task C R ε α → (α → Task C R ε β) → Task C R ε β
  | .done a, f => f a
  | .fail e, _ => .fail e
  | .await c k, f => .await c fun r => (k r).bind f

instance : Monad (Task C R ε) where
  pure := .done
  bind := Task.bind

/-- Await a call; an exceptional answer is thrown. -/
def call (c : C) : Task C R ε (R c) :=
  .await c fun
    | .ok a => .done a
    | .error e => .fail e

/-- A value that is at hand, or an exception. -/
def ofExcept : Except ε α → Task C R ε α
  | .ok a => .done a
  | .error e => .fail e

/-- `try { t } catch (e) { handler e }`: exceptions of the handler itself are not caught. -/
def tryCatch : Task C R ε α → (ε → Task C R ε α) → Task C R ε α
  | .done a, _ => .done a
  | .fail e, handler => handler e
  | .await c k, handler => .await c fun r => (k r).tryCatch handler

variable (e : ε) (a : α) {f : R c → Task C R ε α} {post' : Except ε α → σ → Prop} {I : σ → Prop}
  {t : Task C R ε α} {s : σ}

@[simp] theorem pure_eq : (pure a : Task C R ε α) = .done a := rfl

@[simp] theorem done_bind (f : α → Task C R ε β) : (.done a >>= f) = f a := rfl

@[simp] theorem fail_bind (f : α → Task C R ε β) : (.fail e >>= f) = .fail e := rfl

@[simp] theorem call_bind (c : C) (f : R c → Task C R ε β) :
    (call c >>= f) = .await c fun
      | .ok a => f a
      | .error e => .fail e := by
  show Task.bind _ _ = _
  simp only [call, Task.bind]
  congr 1
  funext r
  cases r <;> rfl

theorem bind_assoc {γ : Type} (t : Task C R ε α) (f : α → Task C R ε β) (g : β → Task C R ε γ) :
    (t >>= f) >>= g = t >>= fun a => f a >>= g := by
  induction t with
  | done a | fail e => rfl
  | await c k ih => exact congrArg (Task.await c) (funext ih)

/-! ## Execution -/

/-- The result of a task and the state it leaves, when nothing else runs. -/
def run (h : Handler C R ε σ) : Task C R ε α → σ → Except ε α × σ
  | .done a, s => (.ok a, s)
  | .fail e, s => (.error e, s)
  | .await c k, s => run h (k (h c s).1) (h c s).2

/-- The calls of a task in order, when nothing else runs. -/
def trace (h : Handler C R ε σ) : Task C R ε α → σ → List (Event C R ε σ)
  | .done _, _ => []
  | .fail _, _ => []
  | .await c k, s => ⟨s, c, (h c s).1, (h c s).2⟩ :: trace h (k (h c s).1) (h c s).2

/-- One step of a task: the pending call is answered and the task runs to its next await point. -/
def step (h : Handler C R ε σ) : Task C R ε α → σ → Task C R ε α × σ
  | .done a, s => (.done a, s)
  | .fail e, s => (.fail e, s)
  | .await c k, s => (k (h c s).1, (h c s).2)

def result? : Task C R ε α → Option (Except ε α)
  | .done a => some (.ok a)
  | .fail e => some (.error e)
  | .await _ _ => none

variable (h : Handler C R ε σ)

@[simp] theorem run_done (s : σ) : (Task.done a : Task C R ε α).run h s = (.ok a, s) := rfl

@[simp] theorem run_pure (s : σ) : (pure a : Task C R ε α).run h s = (.ok a, s) := rfl

@[simp] theorem run_fail (s : σ) :
    (Task.fail e : Task C R ε α).run h s = (.error e, s) := rfl

@[simp] theorem trace_done (s : σ) : (Task.done a : Task C R ε α).trace h s = [] := rfl

@[simp] theorem trace_fail (s : σ) : (Task.fail e : Task C R ε α).trace h s = [] := rfl

theorem run_await (c : C) (k : Except ε (R c) → Task C R ε α) (s : σ) :
    (Task.await c k).run h s = (k (h c s).1).run h (h c s).2 := rfl

theorem trace_await (c : C) (k : Except ε (R c) → Task C R ε α) (s : σ) :
    (Task.await c k).trace h s =
      ⟨s, c, (h c s).1, (h c s).2⟩ :: (k (h c s).1).trace h (h c s).2 := rfl

theorem trace_call_bind (c : C) (f : R c → Task C R ε α) (s : σ) :
    (Task.call c >>= f).trace h s = ⟨s, c, (h c s).1, (h c s).2⟩ ::
      match (h c s).1 with
      | .ok a => (f a).trace h (h c s).2
      | .error _ => [] := by
  rw [call_bind, trace_await]
  cases (h c s).1 <;> rfl

theorem run_call_bind (c : C) (f : R c → Task C R ε α) (s : σ) :
    (Task.call c >>= f).run h s =
      match (h c s).1 with
      | .ok a => (f a).run h (h c s).2
      | .error e => (.error e, (h c s).2) := by
  rw [call_bind, run_await]
  cases (h c s).1 <;> rfl

theorem trace_call_bind_of_eq {s' : σ} {a : R c} (ha : h c s = (.ok a, s')) :
    (Task.call c >>= f).trace h s = ⟨s, c, .ok a, s'⟩ :: (f a).trace h s' := by
  rw [trace_call_bind, ha]

theorem run_call_bind_of_eq {s' : σ} {a : R c} (ha : h c s = (.ok a, s')) :
    (Task.call c >>= f).run h s = (f a).run h s' := by
  rw [run_call_bind, ha]

theorem trace_call (c : C) (s : σ) :
    (Task.call c : Task C R ε (R c)).trace h s = [⟨s, c, (h c s).1, (h c s).2⟩] := by
  rw [call, trace_await]
  cases (h c s).1 <;> rfl

theorem run_call (c : C) (s : σ) : (Task.call c : Task C R ε (R c)).run h s = h c s := by
  rw [call, run_await]
  cases hr : (h c s).1 with
  | ok a | error e => exact Prod.ext hr.symm rfl

theorem trace_bind (t : Task C R ε α) (f : α → Task C R ε β) (s : σ) :
    (t >>= f).trace h s = t.trace h s ++
      match (t.run h s).1 with
      | .ok a => (f a).trace h (t.run h s).2
      | .error _ => [] := by
  induction t generalizing s with
  | done a | fail e => rfl
  | await c k ih => exact congrArg (List.cons _) (ih _ _)

theorem run_bind (t : Task C R ε α) (f : α → Task C R ε β) (s : σ) :
    (t >>= f).run h s =
      match (t.run h s).1 with
      | .ok a => (f a).run h (t.run h s).2
      | .error e => (.error e, (t.run h s).2) := by
  induction t generalizing s with
  | done a | fail e => rfl
  | await c k ih => exact ih _ _

theorem run_bind_ok {f : α → Task C R ε β} {b : β} (hb : ((t >>= f).run h s).1 = .ok b) :
    ∃ a, (t.run h s).1 = .ok a ∧ (t >>= f).run h s = (f a).run h (t.run h s).2 := by
  rw [run_bind] at hb ⊢
  cases hr : (t.run h s).1 with
  | ok a => exact ⟨a, rfl, rfl⟩
  | error e =>
    rw [hr] at hb
    cases hb

theorem run_call_bind_ok {b : α} (hb : ((Task.call c >>= f).run h s).1 = .ok b) :
    ∃ a, (h c s).1 = .ok a ∧ (Task.call c >>= f).run h s = (f a).run h (h c s).2 := by
  rw [run_call_bind] at hb ⊢
  cases hr : (h c s).1 with
  | ok a => exact ⟨a, rfl, rfl⟩
  | error e =>
    rw [hr] at hb
    cases hb

theorem step_call_bind (c : C) (f : R c → Task C R ε α) (s : σ) :
    (Task.call c >>= f).step h s =
      (match (h c s).1 with
        | .ok a => f a
        | .error e => .fail e, (h c s).2) := by
  rw [call_bind]
  simp only [step]

theorem trace_tryCatch (t : Task C R ε α) (f : ε → Task C R ε α) (s : σ) :
    (t.tryCatch f).trace h s = t.trace h s ++
      match (t.run h s).1 with
      | .ok _ => []
      | .error e => (f e).trace h (t.run h s).2 := by
  induction t generalizing s with
  | done a | fail e => rfl
  | await c k ih =>
    show _ :: _ = _ :: _
    rw [ih]
    rfl

theorem trace_tryCatch_call_bind (c : C) (f : R c → Task C R ε α) (g : ε → Task C R ε α) (s : σ) :
    ((Task.call c >>= f).tryCatch g).trace h s = ⟨s, c, (h c s).1, (h c s).2⟩ ::
      match (h c s).1 with
      | .ok a => ((f a).tryCatch g).trace h (h c s).2
      | .error e => (g e).trace h (h c s).2 := by
  rw [call_bind, tryCatch, trace_await]
  cases (h c s).1 <;> rfl

theorem run_tryCatch (t : Task C R ε α) (f : ε → Task C R ε α) (s : σ) :
    (t.tryCatch f).run h s =
      match (t.run h s).1 with
      | .ok a => (.ok a, (t.run h s).2)
      | .error e => (f e).run h (t.run h s).2 := by
  induction t generalizing s with
  | done a | fail e => rfl
  | await c k ih => exact ih _ _

theorem eq_of_mem_trace {e : Event C R ε σ} (he : e ∈ t.trace h s) :
    e = ⟨e.before, e.call, (h e.call e.before).1, (h e.call e.before).2⟩ := by
  induction t generalizing s with
  | done a | fail e => cases he
  | await c k ih =>
    rcases List.mem_cons.1 he with rfl | he
    · rfl
    · exact ih _ he

/-! ## Preconditions -/

/-- From the state `s`, as long as the answered calls satisfy `H`, each of them satisfies `G`, and
the result and the final state satisfy `post`. -/
def wp (H G : Event C R ε σ → Prop) (post : Except ε α → σ → Prop) : Task C R ε α → σ → Prop
  | .done a, s => post (.ok a) s
  | .fail e, s => post (.error e) s
  | .await c k, s =>
    H ⟨s, c, (h c s).1, (h c s).2⟩ →
      G ⟨s, c, (h c s).1, (h c s).2⟩ ∧ wp H G post (k (h c s).1) (h c s).2

variable {h} {H G : Event C R ε σ → Prop} {post : Except ε α → σ → Prop}

theorem wp_sound (ht : t.wp h H G post s) (hH : ∀ e ∈ t.trace h s, H e) :
    (∀ e ∈ t.trace h s, G e) ∧ post (t.run h s).1 (t.run h s).2 := by
  induction t generalizing s with
  | done a | fail e => exact ⟨by simp, ht⟩
  | await c k ih =>
    rw [trace_await] at hH ⊢
    obtain ⟨hG, hk⟩ := ht (hH _ List.mem_cons_self)
    obtain ⟨hev, hfin⟩ := ih _ hk fun e he => hH e (List.mem_cons_of_mem _ he)
    refine ⟨fun e he => ?_, hfin⟩
    rcases List.mem_cons.1 he with rfl | he
    · exact hG
    · exact hev e he

theorem wp_call_bind (hc : H ⟨s, c, (h c s).1, (h c s).2⟩ → G ⟨s, c, (h c s).1, (h c s).2⟩)
    (hok : H ⟨s, c, (h c s).1, (h c s).2⟩ → ∀ a, (h c s).1 = .ok a → (f a).wp h H G post (h c s).2)
    (herr : H ⟨s, c, (h c s).1, (h c s).2⟩ → ∀ e, (h c s).1 = .error e → post (.error e) (h c s).2) :
    (Task.call c >>= f).wp h H G post s := by
  rw [Task.call_bind]
  intro hH
  refine ⟨hc hH, ?_⟩
  cases hr : (h c s).1 with
  | ok a => exact hok hH a hr
  | error e => exact herr hH e hr

theorem wp_bind {post : Except ε β → σ → Prop} {f : α → Task C R ε β} (ht : t.wp h H G post' s)
    (hok : ∀ a s, post' (.ok a) s → (f a).wp h H G post s)
    (herr : ∀ e s, post' (.error e) s → post (.error e) s) : (t >>= f).wp h H G post s := by
  induction t generalizing s with
  | done a => exact hok a s ht
  | fail e => exact herr e s ht
  | await c k ih => exact fun hH => ⟨(ht hH).1, ih _ (ht hH).2⟩

theorem wp_mono (ht : t.wp h H G post s) (hpost : ∀ r s, post r s → post' r s) :
    t.wp h H G post' s := by
  induction t generalizing s with
  | done a | fail e => exact hpost _ _ ht
  | await c k ih => exact fun hH => ⟨(ht hH).1, ih _ (ht hH).2⟩

theorem wp_tryCatch_of {f : ε → Task C R ε α} (ht : t.wp h H G post' s)
    (hok : ∀ a s, post' (.ok a) s → post (.ok a) s)
    (hf : ∀ e s, post' (.error e) s → (f e).wp h H G post s) :
    (t.tryCatch f).wp h H G post s := by
  induction t generalizing s with
  | done a => exact hok a s ht
  | fail e => exact hf e s ht
  | await c k ih => exact fun hH => ⟨(ht hH).1, ih _ (ht hH).2⟩

/-- A body that keeps `I`, whether it returns or throws, guards a handler that starts from `I`. -/
theorem wp_tryCatch {f : ε → Task C R ε α} (ht : t.wp h H G (fun _ => I) s)
    (hok : ∀ a s, I s → post (.ok a) s) (hf : ∀ e s, I s → (f e).wp h H G post s) :
    (t.tryCatch f).wp h H G post s :=
  wp_tryCatch_of ht hok hf

/-! ### Two endings -/

/-- One condition for a task that returns, and one for a task that throws. -/
def ending (returned : α → σ → Prop) (thrown : σ → Prop) : Except ε α → σ → Prop
  | .ok a => returned a
  | .error _ => thrown

variable (h H G) in
/-- From every state in `W` the task returns in a state in `W'`, or throws in one in `E`. -/
def Leads (W : σ → Prop) (W' : α → σ → Prop) (E : σ → Prop) (t : Task C R ε α) : Prop :=
  ∀ s, W s → t.wp h H G (ending W' E) s

section Leads

variable {W E : σ → Prop} {W' : α → σ → Prop}

theorem leads_done {a : α} (hW : ∀ s, W s → W' a s) :
    Leads h H G W W' E (.done a : Task C R ε α) := hW

theorem leads_fail {e : ε} (hW : ∀ s, W s → E s) :
    Leads h H G W W' E (.fail e : Task C R ε α) := hW

theorem leads_call {W' : R c → σ → Prop}
    (hc : ∀ s, W s → H ⟨s, c, (h c s).1, (h c s).2⟩ → G ⟨s, c, (h c s).1, (h c s).2⟩ ∧
      (∀ a, (h c s).1 = .ok a → W' a (h c s).2) ∧ ∀ e, (h c s).1 = .error e → E (h c s).2) :
    Leads h H G W W' E (Task.call c : Task C R ε (R c)) := by
  intro s hs hH
  obtain ⟨hG, hok, herr⟩ := hc s hs hH
  refine ⟨hG, ?_⟩
  cases hr : (h c s).1 with
  | ok a => exact hok a hr
  | error e => exact herr e hr

theorem Leads.bind {V : α → σ → Prop} {W' : β → σ → Prop} {f : α → Task C R ε β}
    (ht : Leads h H G W V E t) (hf : ∀ a, Leads h H G (V a) W' E (f a)) :
    Leads h H G W W' E (t >>= f) :=
  fun s hs => wp_bind (ht s hs) (fun a s hs => hf a s hs) fun _ _ hs => hs

theorem Leads.tryCatch {E' : σ → Prop} {f : ε → Task C R ε α} (ht : Leads h H G W W' E t)
    (hf : ∀ e, Leads h H G E W' E' (f e)) :
    Leads h H G W W' E' (t.tryCatch f) :=
  fun s hs => wp_tryCatch_of (ht s hs) (fun _ _ hs => hs) fun e s hs => hf e s hs

theorem Leads.mono {V F : σ → Prop} {V' : α → σ → Prop} (ht : Leads h H G W W' E t)
    (hV : ∀ s, V s → W s) (hV' : ∀ a s, W' a s → V' a s) (hF : ∀ s, E s → F s) :
    Leads h H G V V' F t := by
  refine fun s hs => wp_mono (ht s (hV s hs)) fun r s hs => ?_
  cases r with
  | ok a => exact hV' a s hs
  | error e => exact hF s hs

end Leads

/-! ## Calls a task may issue -/

/-- Whatever the answers, every call that the task issues satisfies `p`. -/
def Uses (p : C → Prop) : Task C R ε α → Prop
  | .done _ => True
  | .fail _ => True
  | .await c k => p c ∧ ∀ r, Uses p (k r)

variable {p : C → Prop}

theorem Uses.mono {p' : C → Prop} (ht : t.Uses p) (hp : ∀ c, p c → p' c) :
    t.Uses p' := by
  induction t with
  | done a | fail e => trivial
  | await c k ih => exact ⟨hp c ht.1, fun r => ih r (ht.2 r)⟩

theorem Uses.call_bind {f : R c → Task C R ε β} (hc : p c) (hf : ∀ a, (f a).Uses p) :
    (Task.call c >>= f).Uses p := by
  rw [Task.call_bind]
  refine ⟨hc, fun r => ?_⟩
  cases r with
  | ok a => exact hf a
  | error e => trivial

theorem uses_call (hc : p c) : (call c : Task C R ε (R c)).Uses p := by
  refine ⟨hc, fun r => ?_⟩
  cases r <;> trivial

theorem uses_of_forall (hp : ∀ c, p c) (t : Task C R ε α) : t.Uses p := by
  induction t with
  | done a | fail e => trivial
  | await c k ih => exact ⟨hp c, ih⟩

theorem uses_ofExcept (r : Except ε α) : (ofExcept r : Task C R ε α).Uses p := by
  cases r <;> trivial

theorem Uses.tryCatch {f : ε → Task C R ε α} (ht : t.Uses p) (hf : ∀ e, (f e).Uses p) :
    (t.tryCatch f).Uses p := by
  induction t with
  | done a => trivial
  | fail e => exact hf e
  | await c k ih => exact ⟨ht.1, fun r => ih r (ht.2 r)⟩

theorem Uses.bind {f : α → Task C R ε β} (ht : t.Uses p) (hf : ∀ a, (f a).Uses p) :
    (t >>= f).Uses p := by
  induction t with
  | done a => exact hf a
  | fail e => trivial
  | await c k ih => exact ⟨ht.1, fun r => ih r (ht.2 r)⟩

theorem Uses.step (ht : t.Uses p) (s : σ) : (t.step h s).1.Uses p := by
  cases t with
  | done a | fail e => trivial
  | await c k => exact ht.2 _

theorem Uses.trace (ht : t.Uses p) (s : σ) :
    ∀ e ∈ t.trace h s, p e.call := by
  induction t generalizing s with
  | done a | fail e => simp
  | await c k ih =>
    intro e he
    rcases List.mem_cons.1 he with rfl | he
    · exact ht.1
    · exact ih _ (ht.2 _) _ e he

theorem Uses.run (hI : ∀ c s, p c → I s → I (h c s).2) (ht : t.Uses p) (hs : I s) :
    I (t.run h s).2 := by
  induction t generalizing s with
  | done a | fail e => exact hs
  | await c k ih => exact ih _ (ht.2 _) (hI c s ht.1 hs)

theorem run_keeps (hI : ∀ c s, I s → I (h c s).2) (t : Task C R ε α) (hs : I s) :
    I (t.run h s).2 := by
  induction t generalizing s with
  | done a | fail e => exact hs
  | await c k ih => exact ih _ (hI c s hs)

/-- If every call in `p` whose event satisfies `H` keeps the invariant `I` and makes an event
satisfying `G`, then so does a task that only issues such calls. -/
theorem Uses.wp_of_event
    (hp : ∀ c s, p c → I s → H ⟨s, c, (h c s).1, (h c s).2⟩ → G ⟨s, c, (h c s).1, (h c s).2⟩ ∧ I (h c s).2)
    (ht : t.Uses p) (hs : I s) : t.wp h H G (fun _ => I) s := by
  induction t generalizing s with
  | done a | fail e => exact hs
  | await c k ih =>
    intro hH
    obtain ⟨hG, hI⟩ := hp c s ht.1 hs hH
    exact ⟨hG, ih _ (ht.2 _) hI⟩

theorem Uses.wp (hp : ∀ c s, p c → I s → G ⟨s, c, (h c s).1, (h c s).2⟩ ∧ I (h c s).2)
    (ht : t.Uses p) (hs : I s) : t.wp h H G (fun _ => I) s :=
  ht.wp_of_event (fun c s hc hs _ => hp c s hc hs) hs

theorem Uses.leads
    (hp : ∀ c s, p c → I s → H ⟨s, c, (h c s).1, (h c s).2⟩ → G ⟨s, c, (h c s).1, (h c s).2⟩ ∧ I (h c s).2)
    (ht : t.Uses p) : Leads h H G I (fun _ => I) I t := by
  refine fun s hs => wp_mono (ht.wp_of_event hp hs) fun r s hs => ?_
  cases r with
  | ok a | error e => exact hs

/-! ## Tasks that throw only what a call throws -/

/-- The task throws nothing of its own: it ends with the first call that throws. -/
def Straight : Task C R ε α → Prop
  | .done _ => True
  | .fail _ => False
  | .await _ k => (∀ a, (k (.ok a)).Straight) ∧ ∀ e, k (.error e) = .fail e

theorem straight_call (c : C) : (Task.call c : Task C R ε (R c)).Straight :=
  ⟨fun _ => trivial, fun _ => rfl⟩

theorem Straight.bind {f : α → Task C R ε β} (ht : t.Straight) (hf : ∀ a, (f a).Straight) :
    (t >>= f).Straight := by
  induction t with
  | done a => exact hf a
  | fail e => exact ht.elim
  | await c k ih =>
    refine ⟨fun a => ih _ (ht.1 a), fun e => ?_⟩
    show (k (.error e)).bind f = .fail e
    rw [ht.2 e]
    rfl

/-- Such a task returns if no call throws, and throws if one does. -/
theorem Straight.run_cases (ht : t.Straight) (s : σ) :
    (∃ a, (t.run h s).1 = .ok a ∧ ∀ e ∈ t.trace h s, e.threw = false) ∨
      ∃ err, (t.run h s).1 = .error err ∧ ∃ e ∈ t.trace h s, e.threw = true := by
  induction t generalizing s with
  | done a => exact Or.inl ⟨a, rfl, by simp⟩
  | fail e => exact ht.elim
  | await c k ih =>
    rw [run_await, trace_await]
    cases hr : (h c s).1 with
    | ok a =>
      rcases ih _ (ht.1 a) (h c s).2 with ⟨b, hb, hall⟩ | ⟨err, herr, e, he, hthrew⟩
      · refine Or.inl ⟨b, hb, ?_⟩
        intro e he
        rcases List.mem_cons.1 he with rfl | he
        · rfl
        · exact hall e he
      · exact Or.inr ⟨err, herr, e, List.mem_cons_of_mem _ he, hthrew⟩
    | error err =>
      rw [ht.2 err]
      exact Or.inr ⟨err, rfl, _, List.mem_cons_self, rfl⟩

/-! ## Tasks that never return -/

/-- Whatever the answers, the task throws. -/
def Fails : Task C R ε α → Prop
  | .done _ => False
  | .fail _ => True
  | .await _ k => ∀ r, (k r).Fails

theorem fails_bind (t : Task C R ε α) {f : α → Task C R ε β} (hf : ∀ a, (f a).Fails) :
    (t >>= f).Fails := by
  induction t with
  | done a => exact hf a
  | fail e => trivial
  | await c k ih => exact fun r => ih r

theorem Fails.run (ht : t.Fails) (s : σ) : ∃ e, (t.run h s).1 = .error e := by
  induction t generalizing s with
  | done a => exact ht.elim
  | fail e => exact ⟨e, rfl⟩
  | await c k ih => exact ih _ (ht _) _

theorem Leads.of_fails {H G : Event C R ε σ → Prop} {W E : σ → Prop} {V W' : α → σ → Prop}
    (ht : Leads h H G W V E t) (hfails : t.Fails) : Leads h H G W W' E t := by
  intro s hs
  have hwp := ht s hs
  clear ht hs
  induction t generalizing s with
  | done a => exact hfails.elim
  | fail e => exact hwp
  | await c k ih => exact fun hH => ⟨(hwp hH).1, ih _ (hfails _) _ (hwp hH).2⟩

/-! ## Tasks that return -/

/-- If the task returns, its result and the state it leaves satisfy `P`. -/
def Ensures (h : Handler C R ε σ) (P : α → σ → Prop) (t : Task C R ε α) (s : σ) : Prop :=
  ∀ a, (t.run h s).1 = .ok a → P a (t.run h s).2

variable {P : α → σ → Prop} {Q : β → σ → Prop}

theorem ensures_pure {a : α} (ha : P a s) : (pure a : Task C R ε α).Ensures h P s := by
  intro b hb
  rw [run_pure] at hb ⊢
  rwa [← Except.ok.inj hb]

theorem Fails.ensures (ht : t.Fails) (s : σ) : t.Ensures h P s := by
  intro a ha
  obtain ⟨e, he⟩ := ht.run (h := h) s
  rw [he] at ha
  cases ha

theorem ensures_fail (s : σ) : (Task.fail e : Task C R ε α).Ensures h P s := by
  intro a ha
  cases ha

theorem Ensures.bind {f : α → Task C R ε β} (ht : t.Ensures h P s)
    (hf : ∀ a s, P a s → (f a).Ensures h Q s) : (t >>= f).Ensures h Q s := by
  intro b hb
  obtain ⟨a, ha, hrun⟩ := run_bind_ok h hb
  rw [hrun] at hb ⊢
  exact hf a _ (ht a ha) b hb

theorem ensures_call_bind (hf : ∀ a, (h c s).1 = .ok a → (f a).Ensures h P (h c s).2) :
    (Task.call c >>= f).Ensures h P s := by
  intro b hb
  obtain ⟨a, ha, hrun⟩ := run_call_bind_ok h hb
  rw [hrun] at hb ⊢
  exact hf a ha b hb

theorem Ensures.tryCatch {f : ε → Task C R ε α} (ht : t.Ensures h P s) (hf : ∀ e, (f e).Fails) :
    (t.tryCatch f).Ensures h P s := by
  intro a ha
  rw [run_tryCatch] at ha ⊢
  cases hr : (t.run h s).1 with
  | ok b =>
    rw [hr] at ha
    exact ht a (hr.trans ha)
  | error e =>
    rw [hr] at ha
    exact (hf e).ensures _ a ha

theorem Uses.ensures (hI : ∀ c s, p c → I s → I (h c s).2) (ht : t.Uses p) (hs : I s) :
    t.Ensures h (fun _ => I) s :=
  fun _ _ => ht.run hI hs

end Task

/-! ## Sessions -/

def traceAll (h : Handler C R ε σ) : List (Task C R ε α) → σ → List (Event C R ε σ)
  | [], _ => []
  | t :: ts, s => t.trace h s ++ traceAll h ts (t.run h s).2

variable {s : σ}

/-- Invariant rule for sessions: what every task of the session guarantees from a state satisfying
`I`, the session guarantees. -/
theorem traceAll_forall (h : Handler C R ε σ) {I : σ → Prop} {P : Event C R ε σ → Prop}
    {ts : List (Task C R ε α)}
    (ht : ∀ t ∈ ts, ∀ s, I s → (∀ e ∈ t.trace h s, P e) ∧ I (t.run h s).2) (hs : I s) :
    ∀ e ∈ traceAll h ts s, P e := by
  induction ts generalizing s with
  | nil => simp [traceAll]
  | cons t ts ih =>
    obtain ⟨hev, hI⟩ := ht t List.mem_cons_self s hs
    intro e he
    rcases List.mem_append.1 he with he | he
    · exact hev e he
    · exact ih (fun t' ht' => ht t' (List.mem_cons_of_mem _ ht')) hI e he

/-- The same with preconditions: if the events of the session all satisfy `H`, they all satisfy
`G`. -/
theorem traceAll_forall_of_wp (h : Handler C R ε σ) {H G : Event C R ε σ → Prop} {I : σ → Prop}
    {ts : List (Task C R ε α)} (ht : ∀ t ∈ ts, ∀ s, I s → t.wp h H G (fun _ => I) s) (hs : I s)
    (hH : ∀ e ∈ traceAll h ts s, H e) : ∀ e ∈ traceAll h ts s, G e := by
  induction ts generalizing s with
  | nil => simp [traceAll]
  | cons t ts ih =>
    obtain ⟨hev, hI⟩ := Task.wp_sound (ht t List.mem_cons_self s hs) fun e he =>
      hH e (List.mem_append_left _ he)
    intro e he
    rcases List.mem_append.1 he with he | he
    · exact hev e he
    · exact ih (fun t' ht' => ht t' (List.mem_cons_of_mem _ ht')) hI
        (fun e he => hH e (List.mem_append_right _ he)) e he

/-! ## From single events to pairs of states -/

/-- The events follow one another: each starts where the previous one ended, the first at `s`. -/
def Linked : σ → List (Event C R ε σ) → Prop
  | _, [] => True
  | s, e :: es => e.before = s ∧ Linked e.after es

def lastState : σ → List (Event C R ε σ) → σ
  | s, [] => s
  | _, e :: es => lastState e.after es

theorem Task.linked_trace (h : Handler C R ε σ) (t : Task C R ε α) (s : σ) :
    Linked s (t.trace h s) ∧ lastState s (t.trace h s) = (t.run h s).2 := by
  induction t generalizing s with
  | done a | fail e => exact ⟨trivial, rfl⟩
  | await c k ih => exact ⟨⟨rfl, (ih _ _).1⟩, (ih _ _).2⟩

theorem Linked.append {l l' : List (Event C R ε σ)} (hl : Linked s l)
    (hl' : Linked (lastState s l) l') : Linked s (l ++ l') := by
  induction l generalizing s with
  | nil => exact hl'
  | cons e es ih => exact ⟨hl.1, ih hl.2 hl'⟩

theorem linked_traceAll (h : Handler C R ε σ) (ts : List (Task C R ε α)) (s : σ) :
    Linked s (traceAll h ts s) := by
  induction ts generalizing s with
  | nil => trivial
  | cons t ts ih =>
    have ht := t.linked_trace h s
    refine ht.1.append ?_
    rw [ht.2]
    exact ih _

/-- A preorder that every event respects relates any earlier state to any later one. -/
theorem pairwise_of_linked {r : σ → σ → Prop} [IsPreorder σ r] {l : List (Event C R ε σ)}
    (hl : Linked s l) (hr : ∀ e ∈ l, r e.before e.after) :
    (∀ e ∈ l, r s e.after) ∧ l.Pairwise fun e e' => r e.after e'.after := by
  induction l generalizing s with
  | nil => simp
  | cons e es ih =>
    obtain ⟨rfl, hes⟩ := hl
    obtain ⟨hall, hpw⟩ := ih hes fun e' he' => hr e' (List.mem_cons_of_mem _ he')
    have he : r e.before e.after := hr e List.mem_cons_self
    refine ⟨?_, List.pairwise_cons.2 ⟨hall, hpw⟩⟩
    intro e' he'
    rcases List.mem_cons.1 he' with rfl | he'
    · exact he
    · exact IsTrans.trans _ _ _ he (hall e' he')

/-! ## Pools -/

section Pool

variable {ι : Type} [DecidableEq ι]

/-- Concurrent execution: each entry of the schedule lets one task take one step. -/
def runPool (h : Handler C R ε σ) : List ι → (ι → Task C R ε α) → σ → (ι → Task C R ε α) × σ
  | [], ts, s => (ts, s)
  | i :: is, ts, s =>
    runPool h is (Function.update ts i ((ts i).step h s).1) ((ts i).step h s).2

def Task.nextEvent (h : Handler C R ε σ) : Task C R ε α → σ → List (Event C R ε σ)
  | .done _, _ => []
  | .fail _, _ => []
  | .await c _, s => [⟨s, c, (h c s).1, (h c s).2⟩]

def poolEvents (h : Handler C R ε σ) :
    List ι → (ι → Task C R ε α) → σ → List (ι × Event C R ε σ)
  | [], _, _ => []
  | i :: is, ts, s =>
    ((ts i).nextEvent h s).map (Prod.mk i) ++
      poolEvents h is (Function.update ts i ((ts i).step h s).1) ((ts i).step h s).2

variable {I : (ι → Task C R ε α) → σ → Prop}

/-- Invariant rule for pools: a relation between the tasks and the state that each step of each
task keeps holds after every schedule. -/
theorem runPool_invariant (h : Handler C R ε σ)
    (hI : ∀ i ts s, I ts s → I (Function.update ts i ((ts i).step h s).1) ((ts i).step h s).2)
    (sched : List ι) (ts : ι → Task C R ε α) (s : σ) (hs : I ts s) :
    I (runPool h sched ts s).1 (runPool h sched ts s).2 := by
  induction sched generalizing ts s with
  | nil => exact hs
  | cons i is ih => exact ih _ _ (hI i ts s hs)

/-- Every step of the schedule is taken by a task, in a state, that satisfy `G`. -/
def PoolSteps (h : Handler C R ε σ) (G : Task C R ε α → σ → Prop) :
    List ι → (ι → Task C R ε α) → σ → Prop
  | [], _, _ => True
  | i :: is, ts, s =>
    G (ts i) s ∧ PoolSteps h G is (Function.update ts i ((ts i).step h s).1) ((ts i).step h s).2

theorem runPool_invariant_of_poolSteps (h : Handler C R ε σ) {G : Task C R ε α → σ → Prop}
    (hI : ∀ i ts s, G (ts i) s → I ts s → I (Function.update ts i ((ts i).step h s).1) ((ts i).step
      h s).2)
    {sched : List ι} {ts : ι → Task C R ε α} {s : σ} (hG : PoolSteps h G sched ts s) (hs : I ts s) :
    I (runPool h sched ts s).1 (runPool h sched ts s).2 := by
  induction sched generalizing ts s with
  | nil => exact hs
  | cons i is ih => exact ih hG.2 (hI i ts s hG.1 hs)

end Pool

end Async
