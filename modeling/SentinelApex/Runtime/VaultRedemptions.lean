import SentinelApex.Domain.Places
import SentinelApex.Lib.Drawdown
import SentinelApex.Lib.StableSort
import SentinelApex.Runtime.Vault

/-!
# What a redemption request records

A request finds the shares that are not reserved by drawing all earlier requests again from the
depositor's lots, and draws its own from what is left. Both loops are draws in the sense of
`Drawdown`, as long as the amounts have at most twenty digits; an accepted request is `Planned`.
-/

namespace SentinelApex

open Async Decimal Drawdown

namespace VaultStore

/-- A column value that is subtracted from exactly: at most twenty digits. -/
structure ShareAmount (x : ℚ) : Prop where
  nonneg : 0 ≤ x
  le : x ≤ 10 ^ 12
  mem : x ∈ Places 8

theorem shareAmount_zero : ShareAmount 0 := ⟨le_rfl, by norm_num, zero_mem _⟩

theorem ShareAmount.sub_min {x y : ℚ} (hx : ShareAmount x) (hy : ShareAmount y) :
    ShareAmount (x - min x y) := by
  rcases le_total x y with h | h
  · rw [min_eq_left h, sub_self]
    exact shareAmount_zero
  · rw [min_eq_right h]
    exact ⟨sub_nonneg.2 h, by linarith [hx.le, hy.nonneg], sub_mem hx.mem hy.mem⟩

theorem ShareAmount.minus_min {x y : ℚ} (hx : ShareAmount x) (hy : ShareAmount y) :
    minus x (min x y) = x - min x y := by
  have h := hx.sub_min hy
  refine minus_eq_sub (k := -8) ⟨h.mem, ?_⟩
  rw [abs_of_nonneg h.nonneg]
  norm_num
  linarith [h.le]

/-- The amounts of shares that a request can name: at most twenty digits, down to any place. -/
def Requestable (r : ℚ) : Prop := 0 ≤ r ∧ ∃ j ≤ (-8 : ℤ), Exact j r

variable {q r : ℚ} {lots reserved : List LotAvailability} {requests : List VaultRedemptionRequest}

theorem Requestable.sub_min {c : ℚ} (hr : Requestable r) (hc : ShareAmount c) :
    minus r (min c r) = r - min c r ∧ Requestable (r - min c r) := by
  obtain ⟨hr0, j, hj, hgrid, hle⟩ := hr
  have hrest : Exact j (r - min c r) := by
    rcases le_total c r with h | h
    · rw [min_eq_left h]
      refine ⟨sub_mem hgrid (decimalJs.grid_le hj hc.mem), ?_⟩
      rw [abs_of_nonneg (sub_nonneg.2 h)]
      rw [abs_of_nonneg hr0] at hle
      linarith [hc.nonneg]
    · rw [min_eq_right h, sub_self]
      exact ⟨zero_mem _, by rw [abs_zero]; exact (zpow_pos (by norm_num) _).le⟩
  exact ⟨minus_eq_sub hrest, sub_nonneg.2 (min_le_right c r), j, hj, hrest⟩

theorem formatDecimal_min (r : ℚ) {c : ℚ} (hc : ShareAmount c) :
    formatDecimal (min c r) = min c (formatDecimal r) ∧
      formatDecimal (r - min c r) = formatDecimal r - min c (formatDecimal r) := by
  have hkeep : formatDecimal c = c := roundPlaces_of_mem hc.mem
  rcases le_total c r with h | h
  · have hle : c ≤ formatDecimal r := hkeep.ge.trans (roundPlaces_mono h 8)
    rw [min_eq_left h, min_eq_left hle]
    exact ⟨hkeep, roundPlaces_sub_of_mem hc.mem hc.nonneg h⟩
  · have hle : formatDecimal r ≤ c := (roundPlaces_mono h 8).trans hkeep.le
    rw [min_eq_right h, min_eq_right hle, sub_self, sub_self]
    exact ⟨rfl, roundPlaces_of_mem (zero_mem _)⟩

theorem formatDecimal_nonneg (hr : 0 ≤ r) : 0 ≤ formatDecimal r := roundPlaces_nonneg hr 8

theorem Requestable.shareAmount (hr : Requestable r) : ShareAmount (formatDecimal r) := by
  obtain ⟨hr0, j, hj, -, hle⟩ := hr
  refine ⟨formatDecimal_nonneg hr0, ?_, roundPlaces_mem r 8⟩
  have hbound : r ≤ 10 ^ 12 := by
    rw [abs_of_nonneg hr0] at hle
    calc r ≤ 10 ^ (j + 20) := hle
      _ ≤ 10 ^ (12 : ℤ) := zpow_le_zpow_right₀ (by norm_num) (by linarith)
      _ = 10 ^ 12 := by norm_num
  have hkeep : formatDecimal (10 ^ 12) = 10 ^ 12 :=
    roundPlaces_of_mem (by exact_mod_cast natCast_mem_places (10 ^ 12) 8)
  exact (roundPlaces_mono hbound 8).trans hkeep.le

abbrev capacities (lots : List LotAvailability) : List ℚ := lots.map Prod.snd

theorem capacities_cons (row : VaultDepositLot) (c : ℚ) (lots : List LotAvailability) :
    capacities ((row, c) :: lots) = c :: capacities lots := rfl

theorem shareAmount_left_draw {caps : List ℚ} (hcaps : ∀ c ∈ caps, ShareAmount c)
    (hq : ShareAmount q) : ∀ c ∈ left caps (draw caps q), ShareAmount c := by
  induction caps generalizing q with
  | nil => simp [left]
  | cons c caps ih =>
    have hc := hcaps c List.mem_cons_self
    intro c' hc'
    rw [draw, left_cons] at hc'
    rcases List.mem_cons.1 hc' with rfl | hc'
    · exact hc.sub_min hq
    · refine ih (fun c' h' => hcaps c' (List.mem_cons_of_mem _ h')) ?_ c' hc'
      rw [min_comm]
      exact hq.sub_min hc

theorem reserveLoop_eq (hlots : ∀ c ∈ capacities lots, ShareAmount c) (hq : ShareAmount q) :
    (reserveLoop lots q).1.map Prod.fst = lots.map Prod.fst ∧
      capacities (reserveLoop lots q).1 = left (capacities lots) (draw (capacities lots) q) ∧
      (reserveLoop lots q).2 = q - (draw (capacities lots) q).sum := by
  induction lots generalizing q with
  | nil => simp [reserveLoop, left]
  | cons lot lots ih =>
    obtain ⟨row, c⟩ := lot
    have hc : ShareAmount c := hlots c List.mem_cons_self
    have hrest : ∀ c' ∈ capacities lots, ShareAmount c' :=
      fun c' h' => hlots c' (List.mem_cons_of_mem _ h')
    have hnonneg : ∀ c' ∈ capacities ((row, c) :: lots), 0 ≤ c' := fun c' h' => (hlots c' h').nonneg
    simp only [reserveLoop]
    by_cases hq0 : q ≤ 0
    · obtain rfl : q = 0 := le_antisymm hq0 hq.nonneg
      rw [if_pos hq0, sum_draw_zero hnonneg, draw_zero hnonneg]
      exact ⟨rfl, (left_map_zero _).symm, (sub_zero 0).symm⟩
    · rw [if_neg hq0]
      by_cases hc0 : c ≤ 0
      · obtain rfl : c = 0 := le_antisymm hc0 hc.nonneg
        obtain ⟨hfst, hsnd, hrem⟩ := ih hrest hq
        rw [if_pos hc0]
        simp only [List.map_cons, draw, left_cons, min_eq_left hq.nonneg, sub_zero, List.sum_cons,
          zero_add]
        exact ⟨congrArg _ hfst, congrArg _ hsnd, hrem⟩
      · have htaken := hq.minus_min hc
        obtain ⟨hfst, hsnd, hrem⟩ := ih hrest (hq.sub_min hc)
        rw [if_neg hc0]
        simp only [List.map_cons, draw, left_cons, List.sum_cons]
        rw [min_comm q c] at htaken hfst hsnd hrem
        rw [htaken, hc.minus_min hq]
        refine ⟨congrArg _ hfst, congrArg _ hsnd, ?_⟩
        rw [hrem]
        ring

theorem reserveShares_ok (hlots : ∀ c ∈ capacities lots, ShareAmount c) (hq : ShareAmount q)
    (h : reserveShares lots q = .ok reserved) :
    reserved.map Prod.fst = lots.map Prod.fst ∧
      capacities reserved = left (capacities lots) (draw (capacities lots) q) ∧
      q ≤ (capacities lots).sum := by
  obtain ⟨hfst, hsnd, hrem⟩ := reserveLoop_eq hlots hq
  simp only [reserveShares] at h
  split_ifs at h with hpos
  obtain rfl := Except.ok.inj h
  refine ⟨hfst, hsnd, ?_⟩
  rw [hrem, sum_draw (fun c hc => (hlots c hc).nonneg) hq.nonneg] at hpos
  exact min_eq_right_iff.1 (le_antisymm (min_le_right _ _) (by linarith))

def requestedTotal (requests : List VaultRedemptionRequest) : ℚ :=
  (requests.map VaultRedemptionRequest.requestedShares).sum

theorem requestedTotal_nonneg
    (h : ∀ request ∈ requests, ShareAmount request.requestedShares) : 0 ≤ requestedTotal requests := by
  apply List.sum_nonneg
  intro x hx
  obtain ⟨request, hrequest, rfl⟩ := List.mem_map.1 hx
  exact (h request hrequest).nonneg

theorem reserveRequests_ok (hlots : ∀ c ∈ capacities lots, ShareAmount c)
    (hrequests : ∀ request ∈ requests, ShareAmount request.requestedShares)
    (h : reserveRequests lots requests = .ok reserved) :
    reserved.map Prod.fst = lots.map Prod.fst ∧
      capacities reserved =
        left (capacities lots) (draw (capacities lots) (requestedTotal requests)) ∧
      requestedTotal requests ≤ (capacities lots).sum ∧
      ∀ c ∈ capacities reserved, ShareAmount c := by
  have hnonneg : ∀ c ∈ capacities lots, 0 ≤ c := fun c hc => (hlots c hc).nonneg
  induction requests generalizing lots with
  | nil =>
    obtain rfl : lots = reserved := Except.ok.inj h
    rw [requestedTotal, List.map_nil, List.sum_nil, draw_zero hnonneg, left_map_zero]
    exact ⟨rfl, rfl, List.sum_nonneg hnonneg, hlots⟩
  | cons request requests ih =>
    have hrequest := hrequests request List.mem_cons_self
    have hrest : ∀ request ∈ requests, ShareAmount request.requestedShares :=
      fun request' h' => hrequests request' (List.mem_cons_of_mem _ h')
    have htotal0 := requestedTotal_nonneg hrest
    rw [reserveRequests, List.foldlM_cons] at h
    cases hfirst : reserveShares lots request.requestedShares with
    | error message =>
      rw [hfirst] at h
      cases h
    | ok first =>
      rw [hfirst] at h
      obtain ⟨hfst, hsnd, hle⟩ := reserveShares_ok hlots hrequest hfirst
      have hfirstCaps : ∀ c ∈ capacities first, ShareAmount c := by
        rw [hsnd]
        exact shareAmount_left_draw hlots hrequest
      obtain ⟨hfst', hsnd', hle', hcaps'⟩ :=
        ih hfirstCaps hrest h fun c hc => (hfirstCaps c hc).nonneg
      refine ⟨hfst'.trans hfst, ?_, ?_, hcaps'⟩
      · rw [hsnd', hsnd, left_draw_add hnonneg hrequest.nonneg htotal0]
        rfl
      · rw [hsnd, sum_left_draw, sum_draw hnonneg hrequest.nonneg, min_eq_right hle] at hle'
        rw [requestedTotal, List.map_cons, List.sum_cons]
        rw [requestedTotal] at hle'
        linarith

theorem reserveRequests_isOk (hlots : ∀ c ∈ capacities lots, ShareAmount c)
    (hrequests : ∀ request ∈ requests, ShareAmount request.requestedShares)
    (hcovered : requestedTotal requests ≤ (capacities lots).sum) :
    ∃ reserved, reserveRequests lots requests = .ok reserved := by
  induction requests generalizing lots with
  | nil => exact ⟨lots, rfl⟩
  | cons request requests ih =>
    obtain ⟨hrequest, hrest⟩ := List.forall_mem_cons.1 hrequests
    have hnonneg : ∀ c ∈ capacities lots, 0 ≤ c := fun c hc => (hlots c hc).nonneg
    have htotal0 := requestedTotal_nonneg hrest
    rw [requestedTotal, List.map_cons, List.sum_cons] at hcovered
    have hfits : request.requestedShares ≤ (capacities lots).sum := by
      rw [requestedTotal] at htotal0
      linarith
    obtain ⟨-, hsnd, hrem⟩ := reserveLoop_eq hlots hrequest
    have hfirst : reserveShares lots request.requestedShares =
        .ok (reserveLoop lots request.requestedShares).1 := by
      rw [sum_draw hnonneg hrequest.nonneg, min_eq_right hfits, sub_self] at hrem
      simp only [reserveShares]
      rw [hrem, if_neg (lt_irrefl 0)]
    rw [reserveRequests, List.foldlM_cons, hfirst]
    refine ih ?_ hrest ?_
    · rw [hsnd]
      exact shareAmount_left_draw hlots hrequest
    · rw [hsnd, sum_left_draw, sum_draw hnonneg hrequest.nonneg, min_eq_right hfits]
      rw [requestedTotal]
      linarith

def allocatedTo (allocations : List VaultAllocation) (lotId : String) : ℚ :=
  ((allocations.filter fun a => decide (a.lotId = lotId)).map VaultAllocation.allocatedShares).sum

theorem allocatedTo_cons (a : VaultAllocation) (as : List VaultAllocation) (lotId : String) :
    allocatedTo (a :: as) lotId =
      (if a.lotId = lotId then a.allocatedShares else 0) + allocatedTo as lotId := by
  by_cases h : a.lotId = lotId <;> simp [allocatedTo, h]

theorem allocatedTo_eq_zero {allocations : List VaultAllocation} {lotId : String}
    (h : ∀ a ∈ allocations, a.lotId ≠ lotId) : allocatedTo allocations lotId = 0 := by
  induction allocations with
  | nil => rfl
  | cons a as ih =>
    rw [allocatedTo_cons, if_neg (h a List.mem_cons_self), zero_add]
    exact ih fun a' ha' => h a' (List.mem_cons_of_mem _ ha')

/-- What the allocations of a request record: the draw of its shares from what is left of the lots,
and a time at which all lots it draws on are unlocked. -/
structure Allocates (lots : List LotAvailability) (r : ℚ) (eligibleAt : Date)
    (result : List VaultAllocation × Date × Decimal) : Prop where
  remaining : result.2.2 = r - (draw (capacities lots) r).sum
  total : (result.1.map VaultAllocation.allocatedShares).sum =
    (draw (capacities lots) (formatDecimal r)).sum
  latest : eligibleAt ≤ result.2.1
  unlocked : ∀ a ∈ result.1, ∃ lot ∈ lots, lot.1.id = a.lotId ∧ lot.1.lockExpiresAt ≤ result.2.1
  recorded : (lots.map fun lot => lot.1.id).Nodup →
    (lots.map fun lot => allocatedTo result.1 lot.1.id) =
      draw (capacities lots) (formatDecimal r)

section Allocating

variable {lots : List LotAvailability} {r : ℚ} {eligibleAt : Date}
  {result : List VaultAllocation × Date × Decimal}

theorem Allocates.allocatedTo_eq_zero (h : Allocates lots r eligibleAt result) {lotId : String}
    (hid : lotId ∉ lots.map fun lot => lot.1.id) : allocatedTo result.1 lotId = 0 := by
  refine VaultStore.allocatedTo_eq_zero fun a ha heq => hid ?_
  obtain ⟨lot, hlot, hlotId, -⟩ := h.unlocked a ha
  exact List.mem_map.2 ⟨lot, hlot, hlotId.trans heq⟩

theorem allocates_nothing (hlots : ∀ c ∈ capacities lots, ShareAmount c) :
    Allocates lots 0 eligibleAt ([], eligibleAt, 0) := by
  have hnonneg : ∀ c ∈ capacities lots, 0 ≤ c := fun c hc => (hlots c hc).nonneg
  have hzero : formatDecimal 0 = 0 := roundPlaces_of_mem (zero_mem _)
  exact
    { remaining := by rw [sum_draw_zero hnonneg, sub_zero]
      total := by
        rw [hzero, sum_draw_zero hnonneg]
        rfl
      latest := le_rfl
      unlocked := by simp
      recorded := by
        intro _
        rw [hzero, draw_zero hnonneg, List.map_map]
        rfl }

/-- A lot that is reserved completely is passed over. -/
theorem Allocates.cons_reserved (h : Allocates lots r eligibleAt result) (hr : 0 ≤ r)
    (row : VaultDepositLot) : Allocates ((row, 0) :: lots) r eligibleAt result := by
  have hr' := formatDecimal_nonneg hr
  exact
    { remaining := by simpa [draw, min_eq_left hr] using h.remaining
      total := by simpa [draw, min_eq_left hr'] using h.total
      latest := h.latest
      unlocked := by
        intro a ha
        obtain ⟨lot, hlot, hlotId⟩ := h.unlocked a ha
        exact ⟨lot, List.mem_cons_of_mem _ hlot, hlotId⟩
      recorded := by
        intro hnodup
        obtain ⟨hrow, hnodup⟩ := List.nodup_cons.1 hnodup
        rw [List.map_cons, capacities_cons, draw, min_eq_left hr', sub_zero,
          h.allocatedTo_eq_zero hrow, h.recorded hnodup] }

theorem Allocates.cons_drawn {row : VaultDepositLot} {c : ℚ} {lotEligibleAt : Date}
    (h : Allocates lots (r - min c r)
      (if eligibleAt < lotEligibleAt then lotEligibleAt else eligibleAt) result)
    (hc : ShareAmount c) (hlock : row.lockExpiresAt ≤ lotEligibleAt) :
    Allocates ((row, c) :: lots) r eligibleAt
      (⟨row.id, formatDecimal (min c r), lotEligibleAt⟩ :: result.1, result.2.1, result.2.2) := by
  obtain ⟨htaken, hrest⟩ := formatDecimal_min r hc
  have hlatest := h.latest
  exact
    { remaining := by
        rw [capacities_cons, draw, List.sum_cons, h.remaining]
        ring
      total := by
        rw [List.map_cons, capacities_cons, draw, List.sum_cons, List.sum_cons, h.total, htaken,
          hrest]
      latest := by
        split_ifs at hlatest with hlt
        · exact hlt.le.trans hlatest
        · exact hlatest
      unlocked := by
        intro a ha
        rcases List.mem_cons.1 ha with rfl | ha
        · refine ⟨(row, c), List.mem_cons_self, rfl, hlock.trans ?_⟩
          split_ifs at hlatest with hlt
          · exact hlatest
          · exact (not_lt.1 hlt).trans hlatest
        · obtain ⟨lot, hlot, hlotId⟩ := h.unlocked a ha
          exact ⟨lot, List.mem_cons_of_mem _ hlot, hlotId⟩
      recorded := by
        intro hnodup
        obtain ⟨hrow, hnodup⟩ := List.nodup_cons.1 hnodup
        rw [List.map_cons, capacities_cons, draw, allocatedTo_cons, if_pos rfl,
          h.allocatedTo_eq_zero hrow, add_zero, htaken, ← hrest, ← h.recorded hnodup]
        refine congrArg _ (List.map_congr_left fun lot hlot => ?_)
        have hne : row.id ≠ lot.1.id :=
          fun heq => hrow (List.mem_map.2 ⟨lot, hlot, heq.symm⟩)
        rw [allocatedTo_cons, if_neg hne, zero_add] }

end Allocating

theorem allocateLoop_allocates (requestedAt : Date) (hlots : ∀ c ∈ capacities lots, ShareAmount c)
    (hr : Requestable r) (eligibleAt : Date) :
    Allocates lots r eligibleAt (allocateLoop requestedAt lots r eligibleAt) := by
  induction lots generalizing r eligibleAt with
  | nil =>
    exact
      { remaining := by simp [allocateLoop]
        total := rfl
        latest := le_rfl
        unlocked := by simp [allocateLoop]
        recorded := fun _ => rfl }
  | cons lot lots ih =>
    obtain ⟨row, c⟩ := lot
    have hc : ShareAmount c := hlots c List.mem_cons_self
    have hrest : ∀ c' ∈ capacities lots, ShareAmount c' :=
      fun c' h' => hlots c' (List.mem_cons_of_mem _ h')
    rw [allocateLoop]
    by_cases hr0 : r ≤ 0
    · obtain rfl : r = 0 := le_antisymm hr0 hr.1
      rw [if_pos hr0]
      exact allocates_nothing hlots
    · rw [if_neg hr0]
      by_cases hc0 : c ≤ 0
      · obtain rfl : c = 0 := le_antisymm hc0 hc.nonneg
        rw [if_pos hc0]
        exact (ih hrest hr eligibleAt).cons_reserved hr.1 row
      · rw [if_neg hc0]
        obtain ⟨hminus, hleft⟩ := hr.sub_min hc
        simp only [hminus]
        refine (ih hrest hleft _).cons_drawn hc ?_
        split_ifs with hlt
        · exact le_rfl
        · exact not_lt.1 hlt

/-- What an accepted request of `r` shares records, when `requests` are there already: the total fits
into the lots, and the allocations are the draw that continues the one of the total. -/
structure Planned (lots : List VaultDepositLot) (requests : List VaultRedemptionRequest) (r : ℚ)
    (plan : List VaultAllocation × Date) : Prop where
  covered : requestedTotal requests + formatDecimal r ≤
    (lots.map VaultDepositLot.mintedShares).sum
  total : (plan.1.map VaultAllocation.allocatedShares).sum = formatDecimal r
  unlocked : ∀ a ∈ plan.1, ∃ lot ∈ lots, lot.id = a.lotId ∧ lot.lockExpiresAt ≤ plan.2
  recorded : (lots.map VaultDepositLot.id).Nodup →
    lots.map (fun lot => allocatedTo plan.1 lot.id) =
      draw (left (lots.map VaultDepositLot.mintedShares)
        (draw (lots.map VaultDepositLot.mintedShares) (requestedTotal requests))) (formatDecimal r)

theorem capacities_minted (lots : List VaultDepositLot) :
    capacities (lots.map fun lot => (lot, lot.mintedShares)) =
      lots.map VaultDepositLot.mintedShares := by
  rw [capacities, List.map_map]
  rfl

theorem shareAmount_minted {lots : List VaultDepositLot}
    (hlots : ∀ lot ∈ lots, ShareAmount lot.mintedShares) :
    ∀ c ∈ capacities (lots.map fun lot => (lot, lot.mintedShares)), ShareAmount c := by
  intro c hc
  rw [capacities_minted] at hc
  obtain ⟨lot, hlot, rfl⟩ := List.mem_map.1 hc
  exact hlots lot hlot

theorem planRedemption_isOk {lots : List VaultDepositLot}
    (hlots : ∀ lot ∈ lots, ShareAmount lot.mintedShares)
    (hrequests : ∀ request ∈ requests, ShareAmount request.requestedShares) (hr : Requestable r)
    (hcovered : requestedTotal requests + r ≤ (lots.map VaultDepositLot.mintedShares).sum)
    (requestedAt : Date) : ∃ plan, planRedemption lots requests r requestedAt = .ok plan := by
  have hshares := shareAmount_minted hlots
  have hr0 : 0 ≤ r := hr.1
  rw [← capacities_minted] at hcovered
  obtain ⟨available, hreserved⟩ := reserveRequests_isOk hshares hrequests (by linarith)
  obtain ⟨-, hsnd, hle, havailable⟩ := reserveRequests_ok hshares hrequests hreserved
  have htotal0 := requestedTotal_nonneg hrequests
  have hfits : r ≤ (capacities available).sum := by
    rw [hsnd, sum_left_draw, sum_draw (fun c hc => (hshares c hc).nonneg) htotal0,
      min_eq_right hle]
    linarith
  have hrem := (allocateLoop_allocates requestedAt havailable hr requestedAt).remaining
  rw [sum_draw (fun c hc => (havailable c hc).nonneg) hr0, min_eq_right hfits, sub_self] at hrem
  refine ⟨((allocateLoop requestedAt available r requestedAt).1,
    (allocateLoop requestedAt available r requestedAt).2.1), ?_⟩
  rw [planRedemption, hreserved]
  exact if_neg (by rw [hrem]; exact lt_irrefl 0)

theorem planRedemption_planned {lots : List VaultDepositLot}
    (hlots : ∀ lot ∈ lots, ShareAmount lot.mintedShares)
    (hrequests : ∀ request ∈ requests, ShareAmount request.requestedShares) (hr : Requestable r)
    {requestedAt : Date} {plan : List VaultAllocation × Date}
    (h : planRedemption lots requests r requestedAt = .ok plan) : Planned lots requests r plan := by
  have hcaps := capacities_minted lots
  have hshares := shareAmount_minted hlots
  rw [planRedemption] at h
  cases hreserved : reserveRequests (lots.map fun lot => (lot, lot.mintedShares)) requests with
  | error message =>
    rw [hreserved] at h
    cases h
  | ok available =>
    rw [hreserved] at h
    obtain ⟨hfst, hsnd, hle, havailable⟩ := reserveRequests_ok hshares hrequests hreserved
    have hnonneg : ∀ c ∈ capacities available, 0 ≤ c := fun c hc => (havailable c hc).nonneg
    have hrows : available.map Prod.fst = lots := by
      rw [hfst, List.map_map]
      exact List.map_id _
    have halloc := allocateLoop_allocates requestedAt havailable hr requestedAt
    change (if 0 < (allocateLoop requestedAt available r requestedAt).2.2 then
      Except.error exceedsMessage else Except.ok _) = Except.ok plan at h
    split_ifs at h with hpos
    obtain rfl := Except.ok.inj h
    -- Nothing remains, so what was left covers the request.
    have hfits : r ≤ (capacities available).sum := by
      rw [halloc.remaining, sum_draw hnonneg hr.1] at hpos
      exact min_eq_right_iff.1 (le_antisymm (min_le_right _ _) (by linarith))
    have hplaces : (capacities available).sum ∈ Places 8 :=
      list_sum_mem fun c hc => (havailable c hc).mem
    have hfits' : formatDecimal r ≤ (capacities available).sum :=
      (roundPlaces_mono hfits 8).trans (roundPlaces_of_mem hplaces).le
    have hids : (available.map fun lot => lot.1.id) = lots.map VaultDepositLot.id := by
      rw [← hrows, List.map_map]
      rfl
    have hsum : (capacities available).sum =
        (lots.map VaultDepositLot.mintedShares).sum - requestedTotal requests := by
      have hnonneg' : ∀ c ∈ lots.map VaultDepositLot.mintedShares, 0 ≤ c := by
        intro c hc
        rw [← hcaps] at hc
        exact (hshares c hc).nonneg
      have htotal0 := requestedTotal_nonneg hrequests
      rw [hcaps] at hle hsnd
      rw [hsnd, sum_left_draw, sum_draw hnonneg' htotal0, min_eq_right hle]
    exact
      { covered := by linarith
        total := by
          rw [halloc.total, sum_draw hnonneg (formatDecimal_nonneg hr.1), min_eq_right hfits']
        unlocked := by
          intro a ha
          obtain ⟨lot, hlot, hid, hlock⟩ := halloc.unlocked a ha
          refine ⟨lot.1, ?_, hid, hlock⟩
          rw [← hrows]
          exact List.mem_map_of_mem hlot
        recorded := by
          intro hnodup
          rw [← hids] at hnodup
          have hrecorded := halloc.recorded hnodup
          rw [hsnd, hcaps] at hrecorded
          rw [← hrecorded, ← hrows, List.map_map]
          rfl }

end VaultStore

end SentinelApex
