import SentinelApex.Carry.MultiLegOrchestration
import SentinelApex.Lib.TopologicalOrder

/-!
# Plans in the order of their dependencies

A visit follows the dependencies of a leg down to a leg that is visited or depends on nothing. What
it leaves is sorted by the dependencies (`Visited.after_visit`), it fails only on a path that comes
back (`visit_isSome`), and the path grows with each call, so that the recursion ends
(`visitCall_wellFounded`).
-/

namespace SentinelApex

open TopologicalOrder (Sorted sorted_nil)

def legSequences (legs : List LegDefinition) : List ℕ := legs.map fun leg => leg.legSequence

/-- Leg `a` depends on leg `b`; a link to a sequence that does not exist is ignored. -/
def DependsOn (legs : List LegDefinition) (a b : ℕ) : Prop :=
  (∃ leg ∈ legs, leg.legSequence = a ∧ leg.dependsOn = some b) ∧ b ∈ legSequences legs

/-- No walk along the dependencies comes back to a leg. -/
def NeverRevisits (legs : List LegDefinition) : Prop :=
  ∀ walk : List ℕ, walk.IsChain (DependsOn legs) → walk.Nodup

/-- The leg that is visited before the given one. -/
def dependency (legs : List LegDefinition) (leg : LegDefinition) : Option { leg // leg ∈ legs } :=
  leg.dependsOn.bind fun sequence =>
    legs.attach.find? fun other => decide (other.1.legSequence = sequence)

variable {visiting order : List ℕ}

section

variable {legs : List LegDefinition}

theorem mem_legSequences (leg : { leg // leg ∈ legs }) : leg.1.legSequence ∈ legSequences legs :=
  List.mem_map_of_mem leg.2

variable {order' : List ℕ} {leg : { leg // leg ∈ legs }}

theorem dependsOn_of_dependency {dep : { leg // leg ∈ legs }} (h : dependency legs leg.1 = some dep) :
    DependsOn legs leg.1.legSequence dep.1.legSequence := by
  obtain ⟨sequence, hsequence, hfind⟩ := Option.bind_eq_some_iff.1 h
  have hdep : dep.1.legSequence = sequence := by simpa using List.find?_some hfind
  exact ⟨⟨leg.1, leg.2, rfl, by rw [hsequence, hdep]⟩, mem_legSequences dep⟩

theorem dependency_of_dependsOn (hunique : (legSequences legs).Nodup) {b : ℕ}
    (h : DependsOn legs leg.1.legSequence b) :
    ∃ dep, dependency legs leg.1 = some dep ∧ dep.1.legSequence = b := by
  obtain ⟨⟨other, hother, hsame, hlink⟩, hexists⟩ := h
  obtain rfl : other = leg.1 := List.inj_on_of_nodup_map hunique hother leg.2 hsame
  obtain ⟨target, htarget, htargetSequence⟩ := List.mem_map.1 hexists
  have hfound : (legs.attach.find? fun other => decide (other.1.legSequence = b)).isSome := by
    rw [List.find?_isSome]
    exact ⟨⟨target, htarget⟩, List.mem_attach _ _, by simpa using htargetSequence⟩
  obtain ⟨dep, hdep⟩ := Option.isSome_iff_exists.1 hfound
  refine ⟨dep, ?_, by simpa using List.find?_some hdep⟩
  rw [dependency, hlink]
  exact hdep

theorem visit_of_mem_order (h : leg.1.legSequence ∈ order) :
    visit legs visiting leg order = some order := by
  rw [visit, if_pos h]

theorem visit_of_mem_visiting (hnew : leg.1.legSequence ∉ order) (h : leg.1.legSequence ∈ visiting) :
    visit legs visiting leg order = none := by
  rw [visit, if_neg hnew, dif_pos h]

theorem visit_of_new (hnew : leg.1.legSequence ∉ order) (hpath : leg.1.legSequence ∉ visiting) :
    visit legs visiting leg order =
      (match dependency legs leg.1 with
        | none => some order
        | some dep => visit legs (leg.1.legSequence :: visiting) dep order).map
          fun order => order ++ [leg.1.legSequence] := by
  rw [visit, if_neg hnew, dif_neg hpath]
  rfl

/-- What a visit keeps: the order is sorted by the dependencies and has only legs of the plan. -/
structure Visited (legs : List LegDefinition) (order : List ℕ) : Prop where
  sorted : Sorted (DependsOn legs) order
  subset : order ⊆ legSequences legs

/-- A visit adds the leg and none of the legs on the path to it. -/
theorem Visited.after_visit (hunique : (legSequences legs).Nodup) (h : Visited legs order)
    (hvisit : visit legs visiting leg order = some order') :
    Visited legs order' ∧ order ⊆ order' ∧ leg.1.legSequence ∈ order' ∧
      ∀ s ∈ order', s ∈ order ∨ s ∉ visiting := by
  induction visiting, leg using visit.induct legs order generalizing order' with
  | case1 visiting leg hmem =>
    rw [visit_of_mem_order hmem] at hvisit
    obtain rfl := Option.some.inj hvisit
    exact ⟨h, List.Subset.refl _, hmem, fun s hs => Or.inl hs⟩
  | case2 visiting leg hnew hmem =>
    rw [visit_of_mem_visiting hnew hmem] at hvisit
    cases hvisit
  | case3 visiting leg hnew hpath ih =>
    rw [visit_of_new hnew hpath] at hvisit
    obtain ⟨middle, hmiddle, rfl⟩ := Option.map_eq_some_iff.1 hvisit
    -- The legs before this one: none, or those of the visit of the dependency.
    have hbefore : Visited legs middle ∧ order ⊆ middle ∧
        (∀ b, DependsOn legs leg.1.legSequence b → b ∈ middle) ∧
          ∀ s ∈ middle, s ∈ order ∨ s ∉ leg.1.legSequence :: visiting := by
      cases hdependency : dependency legs leg.1 with
      | none =>
        rw [hdependency] at hmiddle
        obtain rfl := Option.some.inj hmiddle
        refine ⟨h, List.Subset.refl _, fun b hb => ?_, fun s hs => Or.inl hs⟩
        obtain ⟨dep, hdep, -⟩ := dependency_of_dependsOn hunique hb
        rw [hdependency] at hdep
        cases hdep
      | some dep =>
        rw [hdependency] at hmiddle
        obtain ⟨hvisited, hsubset, hmem, hold⟩ := ih dep hmiddle
        refine ⟨hvisited, hsubset, fun b hb => ?_, hold⟩
        obtain ⟨other, hother, rfl⟩ := dependency_of_dependsOn hunique hb
        rw [hdependency] at hother
        obtain rfl := Option.some.inj hother
        exact hmem
    obtain ⟨hvisited, hsubset, hdeps, hold⟩ := hbefore
    have hnotMem : leg.1.legSequence ∉ middle := fun hmem =>
      (hold _ hmem).elim hnew fun hnot => hnot List.mem_cons_self
    refine ⟨⟨hvisited.sorted.concat hnotMem hdeps, ?_⟩, ?_, ?_, fun s hs => ?_⟩
    · exact List.append_subset.2 ⟨hvisited.subset, by simpa using mem_legSequences leg⟩
    · exact List.Subset.trans hsubset (List.subset_append_left _ _)
    · exact List.mem_append_right _ (List.mem_singleton_self _)
    · rcases List.mem_append.1 hs with hs | hs
      · exact (hold s hs).imp id fun hnot hmem => hnot (List.mem_cons_of_mem _ hmem)
      · rw [List.mem_singleton.1 hs]
        exact Or.inr hpath

/-- Where no path comes back, a visit at the end of a path succeeds. -/
theorem visit_isSome (hnever : NeverRevisits legs)
    (hpath : (leg.1.legSequence :: visiting).IsChain fun b a => DependsOn legs a b) :
    (visit legs visiting leg order).isSome := by
  induction visiting, leg using visit.induct legs order with
  | case1 visiting leg hmem =>
    rw [visit_of_mem_order hmem]
    rfl
  | case2 visiting leg hnew hmem =>
    have hnodup := hnever (leg.1.legSequence :: visiting).reverse (List.isChain_reverse.2 hpath)
    rw [List.nodup_reverse] at hnodup
    exact absurd hmem (List.nodup_cons.1 hnodup).1
  | case3 visiting leg hnew hnotVisiting ih =>
    rw [visit_of_new hnew hnotVisiting, Option.isSome_map]
    cases hdependency : dependency legs leg.1 with
    | none => rfl
    | some dep => exact ih dep (hpath.cons_cons (dependsOn_of_dependency hdependency))

/-- A call of `visit` for the dependency of a leg; the path has grown by that leg. -/
def VisitCall (legs : List LegDefinition) (call caller : List ℕ × { leg // leg ∈ legs }) : Prop :=
  caller.2.1.legSequence ∉ caller.1 ∧ dependency legs caller.2.1 = some call.2 ∧
    call.1 = caller.2.1.legSequence :: caller.1

theorem visitCall_wellFounded (legs : List LegDefinition) : WellFounded (VisitCall legs) := by
  refine Subrelation.wf (fun {call caller} h => ?_)
    (InvImage.wf (fun c : List ℕ × { leg // leg ∈ legs } => unvisited legs c.1) wellFounded_lt)
  obtain ⟨hnew, -, hpath⟩ := h
  show unvisited legs call.1 < unvisited legs caller.1
  rw [hpath]
  exact unvisited_cons_lt caller.2.2 hnew

/-- The loop gives a sorted order with the legs that it has gone through. -/
theorem Visited.after_loop (hunique : (legSequences legs).Nodup) {todo : List { leg // leg ∈ legs }}
    (h : Visited legs order)
    (hloop : todo.foldlM (fun order leg => visit legs [] leg order) order = some order') :
    Visited legs order' ∧ order ⊆ order' ∧ ∀ leg ∈ todo, leg.1.legSequence ∈ order' := by
  induction todo generalizing order with
  | nil =>
    obtain rfl := Option.some.inj hloop
    exact ⟨h, List.Subset.refl _, fun leg hleg => absurd hleg List.not_mem_nil⟩
  | cons leg todo ih =>
    rw [List.foldlM_cons] at hloop
    obtain ⟨middle, hvisit, hloop⟩ := Option.bind_eq_some_iff.1 hloop
    obtain ⟨hmiddle, hsubset, hmem, -⟩ := h.after_visit hunique hvisit
    obtain ⟨hvisited, hrest, hall⟩ := ih hmiddle hloop
    refine ⟨hvisited, List.Subset.trans hsubset hrest, List.forall_mem_cons.2 ⟨hrest hmem, hall⟩⟩

theorem foldlM_visit_isSome (hnever : NeverRevisits legs) (todo : List { leg // leg ∈ legs })
    (order : List ℕ) :
    (todo.foldlM (fun order leg => visit legs [] leg order) order).isSome := by
  induction todo generalizing order with
  | nil => rfl
  | cons leg todo ih =>
    have hvisited : (visit legs [] leg order).isSome :=
      visit_isSome hnever (List.isChain_singleton leg.1.legSequence)
    obtain ⟨middle, hvisit⟩ := Option.isSome_iff_exists.1 hvisited
    rw [List.foldlM_cons, hvisit]
    exact ih middle

theorem foldlM_visit_isSome_iff (hunique : (legSequences legs).Nodup) :
    (legs.attach.foldlM (fun order leg => visit legs [] leg order) []).isSome ↔
      NeverRevisits legs := by
  constructor
  · intro h walk hwalk
    obtain ⟨order, hloop⟩ := Option.isSome_iff_exists.1 h
    have hstart : Visited legs [] := ⟨sorted_nil, List.nil_subset _⟩
    obtain ⟨hvisited, -, hall⟩ := hstart.after_loop hunique hloop
    refine hvisited.sorted.nodup_walk (fun a b hab => ?_) hwalk
    obtain ⟨⟨leg, hleg, rfl, -⟩, -⟩ := hab
    exact hall ⟨leg, hleg⟩ (List.mem_attach _ _)
  · exact fun hnever => foldlM_visit_isSome hnever _ _

/-- An order of all legs, each of them once and after the leg it depends on. -/
structure IsExecutionOrder (legs : List LegDefinition) (order : List ℕ) : Prop where
  perm : order.Perm (legSequences legs)
  dependency_first : ∀ leg ∈ legs, ∀ dep ∈ legs, leg.dependsOn = some dep.legSequence →
    order.idxOf dep.legSequence < order.idxOf leg.legSequence

theorem computeExecutionOrder_cases (hunique : (legSequences legs).Nodup) :
    (NeverRevisits legs ∧ IsExecutionOrder legs (computeExecutionOrder legs)) ∨
      (¬ NeverRevisits legs ∧ computeExecutionOrder legs = []) := by
  rw [computeExecutionOrder]
  cases hloop : legs.attach.foldlM (fun order leg => visit legs [] leg order) [] with
  | none =>
    refine Or.inr ⟨fun hnever => ?_, rfl⟩
    have hsome := (foldlM_visit_isSome_iff hunique).2 hnever
    rw [hloop] at hsome
    cases hsome
  | some order =>
    have hnever : NeverRevisits legs :=
      (foldlM_visit_isSome_iff hunique).1 (by rw [hloop]; rfl)
    have hstart : Visited legs [] := ⟨sorted_nil, List.nil_subset _⟩
    obtain ⟨hvisited, -, hall⟩ := hstart.after_loop hunique hloop
    have hsequences : legSequences legs ⊆ order := by
      intro s hs
      obtain ⟨leg, hleg, rfl⟩ := List.mem_map.1 hs
      exact hall ⟨leg, hleg⟩ (List.mem_attach _ _)
    have hperm : order.Perm (legSequences legs) :=
      (List.subperm_of_subset hvisited.sorted.nodup hvisited.subset).antisymm
        (List.subperm_of_subset hunique hsequences)
    refine Or.inl ⟨hnever, hperm, fun leg hleg dep hdep hlink => ?_⟩
    exact hvisited.sorted.idxOf_lt (hall ⟨leg, hleg⟩ (List.mem_attach _ _))
      ⟨⟨leg, hleg, rfl, hlink⟩, mem_legSequences ⟨dep, hdep⟩⟩

end

theorem missingSequence_range' (n : ℕ) : missingSequence (List.range' 1 n) = none := by
  rw [missingSequence, Option.map_eq_none_iff, List.find?_eq_none]
  rintro ⟨s, i⟩ hs
  obtain ⟨hlt, hget⟩ := List.getElem?_eq_some_iff.1 (List.mk_mem_zipIdx_iff_getElem?.1 hs)
  rw [List.getElem_range'] at hget
  simp only [ne_eq, decide_not, Bool.not_eq_true', decide_eq_false_iff_not, not_not]
  omega

theorem insertionSort_legSequences {legs : List LegDefinition}
    (h : (legSequences legs).Perm (List.range' 1 legs.length)) :
    (legSequences legs).insertionSort (· ≤ ·) = List.range' 1 legs.length := by
  refine List.Perm.eq_of_sortedLE List.sortedLE_insertionSort ?_
    ((List.perm_insertionSort _ _).trans h)
  exact (List.pairwise_le_range' 1).sortedLE

section

variable {input : MultiLegPlanInput} {now : Date} {plan : MultiLegPlan}

theorem executionOrder_of_createMultiLegPlan (h : createMultiLegPlan input now = .ok plan) :
    plan.executionOrder = computeExecutionOrder input.legs := by
  unfold createMultiLegPlan at h
  split_ifs at h
  dsimp only at h
  split at h
  · cases h
  · split_ifs at h
    cases h
    rfl

/-- With sequences from 1 on, the plan is created unless the order misses a leg. -/
theorem exists_createMultiLegPlan_iff (hne : input.legs ≠ [])
    (hsequences : (legSequences input.legs).Perm (List.range' 1 input.legs.length)) :
    (∃ plan, createMultiLegPlan input now = .ok plan) ↔
      (computeExecutionOrder input.legs).length = input.legs.length := by
  have hmissing : missingSequence
      ((input.legs.map fun leg => leg.legSequence).insertionSort (· ≤ ·)) = none := by
    have hsorted := insertionSort_legSequences hsequences
    rw [legSequences] at hsorted
    rw [hsorted, missingSequence_range']
  unfold createMultiLegPlan
  rw [if_neg hne]
  dsimp only
  rw [hmissing]
  dsimp only
  split_ifs with hlength
  · exact iff_of_false (by simp) hlength
  · exact iff_of_true ⟨_, rfl⟩ (not_not.1 hlength)

/-- A plan over the legs `1, ..., n` is created exactly if no walk along the dependencies comes back;
its execution order has every leg once, after the leg it depends on; and for every list of legs the
recursion ends. -/
theorem createMultiLegPlan_topological (hne : input.legs ≠ [])
    (hsequences : (legSequences input.legs).Perm (List.range' 1 input.legs.length)) :
    ((∃ plan, createMultiLegPlan input now = .ok plan) ↔ NeverRevisits input.legs) ∧
      (∀ plan, createMultiLegPlan input now = .ok plan →
        plan.executionOrder.Perm (List.range' 1 input.legs.length) ∧
          ∀ leg ∈ input.legs, ∀ dep ∈ input.legs, leg.dependsOn = some dep.legSequence →
            plan.executionOrder.idxOf dep.legSequence <
              plan.executionOrder.idxOf leg.legSequence) ∧
      ∀ legs, WellFounded (VisitCall legs) := by
  have hunique : (legSequences input.legs).Nodup := hsequences.nodup_iff.2 List.nodup_range'
  have hlength : input.legs.length ≠ 0 := mt List.length_eq_zero_iff.1 hne
  rw [exists_createMultiLegPlan_iff hne hsequences]
  rcases computeExecutionOrder_cases hunique with ⟨hnever, horder⟩ | ⟨hrevisits, hempty⟩
  · refine ⟨iff_of_true ?_ hnever, fun plan hplan => ?_, visitCall_wellFounded⟩
    · rw [horder.perm.length_eq, legSequences, List.length_map]
    · rw [executionOrder_of_createMultiLegPlan hplan]
      exact ⟨horder.perm.trans hsequences, horder.dependency_first⟩
  · have hmisses : (computeExecutionOrder input.legs).length ≠ input.legs.length := by
      rw [hempty, List.length_nil]
      exact hlength.symm
    refine ⟨iff_of_false hmisses hrevisits, fun plan hplan => ?_, visitCall_wellFounded⟩
    exact absurd ((exists_createMultiLegPlan_iff hne hsequences).1 ⟨plan, hplan⟩) hmisses

end

def planInputOf (links : List (Option ℕ)) : MultiLegPlanInput where
  carryActionId := "action_123"
  strategyRunId := none
  asset := "BTC"
  notionalUsd := 10000
  legs := links.zipIdx.map fun link =>
    { legSequence := link.2 + 1
      legType := if link.2 % 2 = 0 then .perp else .spot
      side := if link.2 % 2 = 0 then .short else .long
      venueId := "drift-devnet"
      asset := "BTC"
      targetSize := 1 / 10
      targetNotionalUsd := 5000
      dependsOn := link.1 }
  coordinationConfig := ⟨1, true, 30000, 1 / 10000⟩
  maxHedgeDeviationPct := 1

/-- The first leg depends on the third one, which depends on the second. -/
theorem createMultiLegPlan_topological_sample :
    ((∃ plan, createMultiLegPlan (planInputOf [some 3, none, some 2]) 0 = .ok plan) ↔
        NeverRevisits (planInputOf [some 3, none, some 2]).legs) ∧
      (createMultiLegPlan (planInputOf [some 3, none, some 2]) 0).toOption.map
        (fun plan => plan.executionOrder) = some [2, 3, 1] :=
  ⟨(createMultiLegPlan_topological (by decide) (by decide)).1, by decide +kernel⟩

end SentinelApex
