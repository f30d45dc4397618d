import SentinelApex.Lib.Task

/-!
# Contracts of concurrent tasks

A `Contract` says what a task may rely on and what it promises, in terms of a note that it keeps of
the answers it has seen: which replies the contract allows, and which calls the note permits. Tasks
that follow their contracts keep an invariant of the shared state under every schedule whose steps
satisfy a condition on the call, the state and the note of the task that takes the step
(`runPool_of_follows`).
-/

namespace Async

variable {C : Type} {R : C → Type} {ε α σ γ : Type}

/-- The replies that a task relies on, the calls that it promises, and its note of the replies. -/
structure Contract (C : Type) (R : C → Type) (ε γ : Type) where
  reply : (c : C) → Except ε (R c) → Prop
  permits : C → γ → Prop
  note : (c : C) → Except ε (R c) → γ → γ

namespace Contract

variable (K : Contract C R ε γ)

/-- Whatever allowed replies the task gets, every call it issues is permitted. -/
def Follows : Task C R ε α → γ → Prop
  | .done _, _ => True
  | .fail _, _ => True
  | .await c k, g => K.permits c g ∧ ∀ r, K.reply c r → Follows (k r) (K.note c r g)

theorem follows_call_bind {c : C} {f : R c → Task C R ε α} {g : γ} (hc : K.permits c g)
    (hf : ∀ a, K.reply c (.ok a) → K.Follows (f a) (K.note c (.ok a) g)) :
    K.Follows (Task.call c >>= f) g := by
  rw [Task.call_bind]
  refine ⟨hc, fun r hr => ?_⟩
  cases r with
  | ok a => exact hf a hr
  | error e => trivial

/-- The task follows the contract, and its result and its last note satisfy `Q`. -/
def FollowsTo (Q : Except ε α → γ → Prop) : Task C R ε α → γ → Prop
  | .done a, g => Q (.ok a) g
  | .fail e, g => Q (.error e) g
  | .await c k, g => K.permits c g ∧ ∀ r, K.reply c r → FollowsTo Q (k r) (K.note c r g)

section Results

variable {K} {β : Type} {Q : Except ε α → γ → Prop} {p : C → Prop} {g : γ}

theorem followsTo_call_bind {c : C} {f : R c → Task C R ε α} (hc : K.permits c g)
    (hf : ∀ a, K.reply c (.ok a) → K.FollowsTo Q (f a) (K.note c (.ok a) g))
    (herr : ∀ e, K.reply c (.error e) → Q (.error e) (K.note c (.error e) g)) :
    K.FollowsTo Q (Task.call c >>= f) g := by
  rw [Task.call_bind]
  refine ⟨hc, fun r hr => ?_⟩
  cases r with
  | ok a => exact hf a hr
  | error e => exact herr e hr

variable {t : Task C R ε β} {Q' : Except ε β → γ → Prop}

section

variable {G : γ → Prop} (hp : ∀ c g, p c → G g → K.permits c g ∧ ∀ r, G (K.note c r g))

include hp

theorem followsTo_uses_bind (hfail : ∀ e g, G g → Q (.error e) g) (ht : t.Uses p)
    {f : β → Task C R ε α} (hf : ∀ b g, G g → K.FollowsTo Q (f b) g) (hg : G g) :
    K.FollowsTo Q (t >>= f) g := by
  induction t generalizing g with
  | done b => exact hf b g hg
  | fail e => exact hfail e g hg
  | await c k ih => exact ⟨(hp c g ht.1 hg).1, fun r _ => ih r (ht.2 r) ((hp c g ht.1 hg).2 r)⟩

theorem followsTo_of_uses (hresult : ∀ r g, G g → Q r g) {t : Task C R ε α} (ht : t.Uses p)
    (hg : G g) :
    K.FollowsTo Q t g := by
  induction t generalizing g with
  | done a | fail e => exact hresult _ g hg
  | await c k ih => exact ⟨(hp c g ht.1 hg).1, fun r _ => ih r (ht.2 r) ((hp c g ht.1 hg).2 r)⟩

end

theorem FollowsTo.bind {f : β → Task C R ε α} (ht : K.FollowsTo Q' t g)
    (hok : ∀ b g, Q' (.ok b) g → K.FollowsTo Q (f b) g)
    (herr : ∀ e g, Q' (.error e) g → Q (.error e) g) : K.FollowsTo Q (t >>= f) g := by
  induction t generalizing g with
  | done b => exact hok b g ht
  | fail e => exact herr e g ht
  | await c k ih => exact ⟨ht.1, fun r hr => ih r (ht.2 r hr)⟩

theorem FollowsTo.tryCatch {Q' : Except ε α → γ → Prop} {t : Task C R ε α}
    {f : ε → Task C R ε α} (ht : K.FollowsTo Q' t g) (hok : ∀ a g, Q' (.ok a) g → Q (.ok a) g)
    (hf : ∀ e g, Q' (.error e) g → K.FollowsTo Q (f e) g) : K.FollowsTo Q (t.tryCatch f) g := by
  induction t generalizing g with
  | done a => exact hok a g ht
  | fail e => exact hf e g ht
  | await c k ih => exact ⟨ht.1, fun r hr => ih r (ht.2 r hr)⟩

theorem FollowsTo.map {f : β → α} (hQ : ∀ r g, Q' r g → Q (r.map f) g) (ht : K.FollowsTo Q' t g) :
    K.FollowsTo Q (t >>= fun b => pure (f b)) g := by
  induction t generalizing g with
  | done b | fail e => exact hQ _ g ht
  | await c k ih => exact ⟨ht.1, fun r hr => ih r (ht.2 r hr)⟩

theorem FollowsTo.result {t : Task C R ε α} (ht : K.FollowsTo Q t g) {r : Except ε α}
    (hr : t.result? = some r) : Q r g := by
  cases t with
  | done a =>
    obtain rfl : Except.ok a = r := Option.some.inj hr
    exact ht
  | fail e =>
    obtain rfl : Except.error e = r := Option.some.inj hr
    exact ht
  | await c k => cases hr

end Results

section Quiet

variable {K} {β : Type} {p : C → Prop} {g : γ}

theorem follows_iff_followsTo {t : Task C R ε α} {g : γ} :
    K.Follows t g ↔ K.FollowsTo (fun _ _ => True) t g := by
  induction t generalizing g with
  | done a | fail e => exact iff_of_true trivial trivial
  | await c k ih => exact and_congr_right' (forall₂_congr fun r _ => ih r)

section

variable (hp : ∀ c, p c → K.permits c g ∧ ∀ r, K.note c r g = g)

include hp

theorem follows_of_uses {t : Task C R ε α} (ht : t.Uses p) : K.Follows t g :=
  follows_iff_followsTo.2 (followsTo_of_uses (G := (· = g)) (fun c _ hc hg => hg ▸ hp c hc)
    (fun _ _ _ => trivial) ht rfl)

theorem follows_uses_bind {t : Task C R ε β} (ht : t.Uses p) {f : β → Task C R ε α}
    (hf : ∀ b, K.Follows (f b) g) : K.Follows (t >>= f) g :=
  follows_iff_followsTo.2 (followsTo_uses_bind (G := (· = g)) (fun c _ hc hg => hg ▸ hp c hc)
    (fun _ _ _ => trivial) ht (fun b _ hg => hg ▸ follows_iff_followsTo.1 (hf b)) rfl)

theorem follows_fails_bind {t : Task C R ε β} (ht : t.Uses p) (hfails : t.Fails)
    (f : β → Task C R ε α) :
    K.Follows (t >>= f) g := by
  induction t with
  | done b => exact hfails.elim
  | fail e => trivial
  | await c k ih =>
    refine ⟨(hp c ht.1).1, fun r _ => ?_⟩
    rw [(hp c ht.1).2]
    exact ih r (ht.2 r) (hfails r)

end

end Quiet

def next (h : Handler C R ε σ) : Task C R ε α → σ → γ → γ
  | .done _, _, g => g
  | .fail _, _, g => g
  | .await c _, s, g => K.note c (h c s).1 g

/-- The pending call, with the state and the note of its task, satisfies the condition. -/
def Meets (A : C → σ → γ → Prop) : Task C R ε α → σ → γ → Prop
  | .done _, _, _ => True
  | .fail _, _, _ => True
  | .await c _, s, g => A c s g

variable {ι : Type} [DecidableEq ι]

/-- Every step of the schedule satisfies the condition `A`. -/
def ScheduleMeets (h : Handler C R ε σ) (A : C → σ → γ → Prop) :
    List ι → (ι → Task C R ε α) → σ → (ι → γ) → Prop
  | [], _, _, _ => True
  | i :: is, ts, s, g =>
    Meets A (ts i) s (g i) ∧
      ScheduleMeets h A is (Function.update ts i ((ts i).step h s).1) ((ts i).step h s).2
        (Function.update g i (K.next h (ts i) s (g i)))

instance decidableMeets {A : C → σ → γ → Prop} [∀ c s g, Decidable (A c s g)] :
    (t : Task C R ε α) → (s : σ) → (g : γ) → Decidable (Meets A t s g)
  | .done _, _, _ => .isTrue trivial
  | .fail _, _, _ => .isTrue trivial
  | .await c _, s, g => inferInstanceAs (Decidable (A c s g))

instance decidableScheduleMeets (h : Handler C R ε σ) {A : C → σ → γ → Prop}
    [∀ c s g, Decidable (A c s g)] : (sched : List ι) → (ts : ι → Task C R ε α) → (s : σ) →
      (g : ι → γ) → Decidable (K.ScheduleMeets h A sched ts s g)
  | [], _, _, _ => .isTrue trivial
  | i :: is, ts, s, g =>
    @instDecidableAnd _ _ (decidableMeets (ts i) s (g i))
      (decidableScheduleMeets h is (Function.update ts i ((ts i).step h s).1)
        ((ts i).step h s).2 (Function.update g i (K.next h (ts i) s (g i))))

variable {s : σ} {ts : ι → Task C R ε α} {sched : List ι}

theorem scheduleMeets_of_events {h : Handler C R ε σ} {P : C → σ → Prop} {g : ι → γ}
    (hP : ∀ x ∈ poolEvents h sched ts s, P x.2.call x.2.before) :
    K.ScheduleMeets h (fun c s _ => P c s) sched ts s g := by
  induction sched generalizing ts s g with
  | nil => trivial
  | cons i is ih =>
    refine ⟨?_, ih fun x hx => hP x (List.mem_append_right _ hx)⟩
    cases hti : ts i with
    | done a | fail e => trivial
    | await c k =>
      refine hP (i, ⟨s, c, (h c s).1, (h c s).2⟩) (List.mem_append_left _ ?_)
      rw [hti]
      exact List.mem_singleton_self _

variable {K} {h : Handler C R ε σ} {A : C → σ → γ → Prop}

variable (K)

def noteOf (g : ι → γ) (events : List (ι × Event C R ε σ)) (i : ι) : γ :=
  events.foldl (fun note e => if e.1 = i then K.note e.2.call e.2.reply note else note) (g i)

variable {K} {g : ι → γ}

theorem noteOf_append (events : List (ι × Event C R ε σ)) (i : ι) (e : Event C R ε σ) :
    K.noteOf g (events ++ [(i, e)]) i = K.note e.call e.reply (K.noteOf g events i) := by
  rw [noteOf, List.foldl_append]
  exact if_pos rfl

theorem noteOf_append_of_ne {i j : ι} (hj : j ≠ i) (events : List (ι × Event C R ε σ))
    (e : Event C R ε σ) : K.noteOf g (events ++ [(i, e)]) j = K.noteOf g events j := by
  rw [noteOf, List.foldl_append]
  exact if_neg (Ne.symm hj)

/-- Rule for pools, their events and their results: the invariant gives the replies that the tasks
rely on, and is kept by every permitted call that satisfies the condition. -/
theorem runPool_of_meets {J : List (ι × Event C R ε σ) → σ → Prop} {Q : ι → Except ε α → γ → Prop}
    (hreply : ∀ events c s, J events s → K.reply c (h c s).1)
    (hstep : ∀ events i c s, J events s → K.permits c (K.noteOf g events i) →
      A c s (K.noteOf g events i) → J (events ++ [(i, ⟨s, c, (h c s).1, (h c s).2⟩)]) (h c s).2)
    (hsched : K.ScheduleMeets h A sched ts s g) (hts : ∀ i, K.FollowsTo (Q i) (ts i) (g i))
    (hs : J [] s) :
    J (poolEvents h sched ts s) (runPool h sched ts s).2 ∧
      ∀ i, K.FollowsTo (Q i) ((runPool h sched ts s).1 i)
        (K.noteOf g (poolEvents h sched ts s) i) := by
  suffices hall : ∀ (events : List (ι × Event C R ε σ)) (ts : ι → Task C R ε α) (s : σ),
      K.ScheduleMeets h A sched ts s (K.noteOf g events) →
      (∀ i, K.FollowsTo (Q i) (ts i) (K.noteOf g events i)) → J events s →
        J (events ++ poolEvents h sched ts s) (runPool h sched ts s).2 ∧
          ∀ i, K.FollowsTo (Q i) ((runPool h sched ts s).1 i)
            (K.noteOf g (events ++ poolEvents h sched ts s) i) from
    hall [] ts s hsched hts hs
  clear hsched hts hs
  induction sched with
  | nil =>
    intro events ts s _ hts hs
    rw [poolEvents, List.append_nil]
    exact ⟨hs, hts⟩
  | cons i is ih =>
    intro events ts s hsched hts hs
    obtain ⟨hmeets, hrest⟩ := hsched
    rw [poolEvents, ← List.append_assoc]
    cases hti : ts i with
    | done a | fail e =>
      rw [hti] at hrest
      rw [runPool, hti]
      rw [Task.step, next, ← hti, Function.update_eq_self, Function.update_eq_self] at hrest
      rw [Task.step, ← hti, Function.update_eq_self, hti, Task.nextEvent, List.map_nil,
        List.append_nil]
      exact ih events ts s hrest hts hs
    | await c k =>
      have hi := hts i
      rw [hti] at hi hmeets hrest
      rw [runPool, hti]
      have hnotes : Function.update (K.noteOf g events) i
          (K.next h (.await c k) s (K.noteOf g events i)) =
            K.noteOf g (events ++ [(i, ⟨s, c, (h c s).1, (h c s).2⟩)]) := by
        funext j
        by_cases hj : j = i
        · subst hj
          rw [Function.update_self, noteOf_append]
          rfl
        · rw [Function.update_of_ne hj, noteOf_append_of_ne (Ne.symm hj).symm]
      rw [hnotes] at hrest
      refine ih _ _ _ hrest ?_ (hstep events i c s hs hi.1 hmeets)
      intro j
      by_cases hj : j = i
      · subst hj
        rw [Function.update_self, Task.nextEvent, List.map_cons, List.map_nil, noteOf_append]
        exact hi.2 _ (hreply events c s hs)
      · rw [Function.update_of_ne hj, Task.nextEvent, List.map_cons, List.map_nil,
          noteOf_append_of_ne hj]
        exact hts j

/-- Rule for pools and their events: the invariant gives the replies that the tasks rely on, and is
kept by every permitted call. -/
theorem runPool_of_events {J : List (ι × Event C R ε σ) → σ → Prop}
    (hreply : ∀ events c s, J events s → K.reply c (h c s).1)
    (hstep : ∀ events i c s, J events s → K.permits c (K.noteOf g events i) →
      J (events ++ [(i, ⟨s, c, (h c s).1, (h c s).2⟩)]) (h c s).2)
    (sched : List ι) (hts : ∀ i, K.Follows (ts i) (g i)) (hs : J [] s) :
    J (poolEvents h sched ts s) (runPool h sched ts s).2 :=
  (runPool_of_meets hreply (fun events i c s hJ hc _ => hstep events i c s hJ hc)
    (K.scheduleMeets_of_events (P := fun _ _ => True) fun _ _ => trivial)
    (fun i => follows_iff_followsTo.1 (hts i)) hs).1

/-- Rule for pools: the invariant gives the replies that the tasks rely on, and is kept by every
permitted call that satisfies the condition. -/
theorem runPool_of_follows {J : σ → Prop} (hreply : ∀ c s, J s → K.reply c (h c s).1)
    (hstep : ∀ c s g, J s → K.permits c g → A c s g → J (h c s).2)
    (hsched : K.ScheduleMeets h A sched ts s g) (hts : ∀ i, K.Follows (ts i) (g i)) (hs : J s) :
    J (runPool h sched ts s).2 :=
  (runPool_of_meets (J := fun _ => J) (fun _ => hreply)
    (fun _ _ c s hJ hc hA => hstep c s _ hJ hc hA) hsched
    (fun i => follows_iff_followsTo.1 (hts i)) hs).1

end Contract

end Async
