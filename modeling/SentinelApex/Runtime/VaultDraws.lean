import SentinelApex.Lib.Separated
import SentinelApex.Runtime.VaultRedemptions

/-!
# Redemption requests over runs of the vault

The earlier requests have recorded the lots they drew on, but a new request draws them again in the
order of the lots at its time. The two agree, and no share is drawn twice, as long as no deposit
puts its lot in front of one that is drawn on (`Reserved`).
-/

namespace SentinelApex

open Async Decimal Drawdown

namespace VaultStore

section Store

variable (config : VaultConfig) (store : VaultStore)

/-- The shares that the open requests have drawn from a lot. -/
def allocated (lotId : String) : ℚ :=
  (store.openRequests.map fun request => allocatedTo request.allocations lotId).sum

def requestedBy (depositorId : String) : ℚ :=
  requestedTotal (store.openRequests.filter fun request =>
    decide (request.depositorId = depositorId))

def activeShares (depositorId : String) : ℚ :=
  ((store.openLots.filter fun lot => decide (lot.depositorId = depositorId)).map
    VaultDepositLot.mintedShares).sum

/-- No share is drawn twice. -/
structure NoShareTwice : Prop where
  lots : ∀ lot ∈ store.lots, store.allocated lot.id ≤ lot.mintedShares
  depositors : ∀ depositorId, store.requestedBy depositorId ≤ store.activeShares depositorId
  totals : ∀ request ∈ store.openRequests,
    (request.allocations.map VaultAllocation.allocatedShares).sum = request.requestedShares
  eligible : ∀ request ∈ store.openRequests, ∀ a ∈ request.allocations, ∀ lot ∈ store.lots,
    lot.id = a.lotId → lot.lockExpiresAt ≤ request.eligibleAt

/-- The id was given out. -/
def Issued (id : String) : Prop := ∃ n < store.nextId, id = toString n

/-- What the deposits and requests of a run keep: the recorded allocations of a depositor are the
draw of everything that the depositor has requested. -/
structure Reserved : Prop where
  lots : ∀ lot ∈ store.lots, lot.isOpen = true ∧ ShareAmount lot.mintedShares ∧
    store.Issued lot.id ∧ store.Issued lot.depositorId
  lotIds : (store.lots.map VaultDepositLot.id).Nodup
  depositors : ∀ depositor ∈ store.depositors, store.Issued depositor.id
  requests : ∀ request ∈ store.requests, ShareAmount request.requestedShares ∧
    store.Issued request.depositorId
  covered : ∀ depositorId, store.requestedBy depositorId ≤ store.activeShares depositorId
  recorded : ∀ depositorId,
    (store.lotsOf depositorId).map (fun lot => store.allocated lot.id) =
      draw ((store.lotsOf depositorId).map VaultDepositLot.mintedShares)
        (store.requestedBy depositorId)
  totals : ∀ request ∈ store.openRequests,
    (request.allocations.map VaultAllocation.allocatedShares).sum = request.requestedShares
  unlocked : ∀ request ∈ store.openRequests, ∀ a ∈ request.allocations,
    ∃ lot ∈ store.lots, lot.id = a.lotId ∧ lot.lockExpiresAt ≤ request.eligibleAt

variable {config store}

/-! ## Lots and requests of a depositor -/

theorem lotsOf_perm (depositorId : String) :
    (store.lotsOf depositorId).Perm
      (store.openLots.filter fun lot => decide (lot.depositorId = depositorId)) :=
  List.perm_insertionSort _ _

theorem requestsOf_perm (depositorId : String) :
    (store.requestsOf depositorId).Perm
      (store.openRequests.filter fun request => decide (request.depositorId = depositorId)) :=
  List.perm_insertionSort _ _

variable {request : VaultRedemptionRequest} {depositorId : String}

theorem mem_lotsOf {lot : VaultDepositLot} :
    lot ∈ store.lotsOf depositorId ↔
      lot ∈ store.lots ∧ lot.isOpen = true ∧ lot.depositorId = depositorId := by
  rw [(lotsOf_perm depositorId).mem_iff, List.mem_filter, openLots, List.mem_filter,
    decide_eq_true_eq, and_assoc]

theorem mem_requestsOf :
    request ∈ store.requestsOf depositorId ↔
      request ∈ store.openRequests ∧ request.depositorId = depositorId := by
  rw [(requestsOf_perm depositorId).mem_iff, List.mem_filter, decide_eq_true_eq]

theorem sum_lotsOf (depositorId : String) :
    ((store.lotsOf depositorId).map VaultDepositLot.mintedShares).sum =
      store.activeShares depositorId :=
  ((lotsOf_perm depositorId).map _).sum_eq

theorem requestedTotal_requestsOf (depositorId : String) :
    requestedTotal (store.requestsOf depositorId) = store.requestedBy depositorId :=
  ((requestsOf_perm depositorId).map _).sum_eq

theorem mem_requests_of_mem_openRequests (h : request ∈ store.openRequests) :
    request ∈ store.requests :=
  (List.mem_filter.1 h).1

instance : IsTrans VaultDepositLot fun a b => lotBefore a b = true where
  trans a b c hab hbc := by
    simp only [lotBefore, decide_eq_true_eq] at hab hbc ⊢
    rcases hab with hab | ⟨hab, hab'⟩
    · exact Or.inl (hab.trans_le (hbc.elim le_of_lt fun h => h.1.le))
    · rw [hab]
      exact hbc.imp_right fun h => ⟨h.1, hab'.trans h.2⟩

instance : Std.Total fun a b => lotBefore a b = true where
  total a b := by
    simp only [lotBefore, decide_eq_true_eq]
    rcases lt_trichotomy a.lockExpiresAt b.lockExpiresAt with h | h | h
    · exact Or.inl (Or.inl h)
    · exact (le_total a.depositedAt b.depositedAt).imp (fun hle => Or.inr ⟨h, hle⟩)
        fun hle => Or.inr ⟨h.symm, hle⟩
    · exact Or.inr (Or.inl h)

/-! ## No share is drawn twice -/

theorem Reserved.requestedBy_nonneg (h : store.Reserved) (depositorId : String) :
    0 ≤ store.requestedBy depositorId := by
  apply List.sum_nonneg
  intro x hx
  obtain ⟨request, hrequest, rfl⟩ := List.mem_map.1 hx
  exact (h.requests request
    (mem_requests_of_mem_openRequests (List.mem_filter.1 hrequest).1)).1.nonneg

theorem Reserved.noShareTwice (h : store.Reserved) : store.NoShareTwice where
  lots := by
    intro lot hlot
    have hmem : lot ∈ store.lotsOf lot.depositorId :=
      mem_lotsOf.2 ⟨hlot, (h.lots lot hlot).1, rfl⟩
    have hdraw := forall₂_draw_le ((store.lotsOf lot.depositorId).map VaultDepositLot.mintedShares)
      (store.requestedBy lot.depositorId)
    rw [← h.recorded, List.forall₂_map_left_iff, List.forall₂_map_right_iff,
      List.forall₂_same] at hdraw
    exact hdraw lot hmem
  depositors := h.covered
  totals := h.totals
  eligible := by
    intro request hrequest a ha lot hlot hid
    obtain ⟨lot', hlot', hid', hlock⟩ := h.unlocked request hrequest a ha
    obtain rfl : lot' = lot :=
      List.inj_on_of_nodup_map h.lotIds hlot' hlot (hid'.trans hid.symm)
    exact hlock

/-! ## Deposits -/

variable (config store)

/-- The new lot does not come before a lot of the depositor that is drawn on. -/
def BehindDrawnLots (walletAddress : String) (depositedAt : Date) : Prop :=
  ∀ lot ∈ store.openLots, lot.depositorId = store.depositorIdFor walletAddress →
    store.allocated lot.id ≠ 0 →
    lot.lockExpiresAt < addMonths depositedAt config.lockPeriodMonths ∨
      (lot.lockExpiresAt = addMonths depositedAt config.lockPeriodMonths ∧
        lot.depositedAt ≤ depositedAt)

variable {config store}

theorem Issued.mono {after : VaultStore} {id : String} (h : store.Issued id)
    (hle : store.nextId ≤ after.nextId) : after.Issued id := by
  obtain ⟨n, hn, hid⟩ := h
  exact ⟨n, hn.trans_le hle, hid⟩

theorem Issued.ne {id : String} (h : store.Issued id) {n : ℕ} (hn : store.nextId ≤ n) :
    id ≠ toString n := by
  obtain ⟨m, hm, rfl⟩ := h
  intro heq
  have hmn : m = n := Separated.natRepr_toList_inj (congrArg String.toList heq)
  omega

theorem allocated_eq_zero {lotId : String}
    (h : ∀ request ∈ store.openRequests, ∀ a ∈ request.allocations, a.lotId ≠ lotId) :
    store.allocated lotId = 0 := by
  apply List.sum_eq_zero
  intro x hx
  obtain ⟨request, hrequest, rfl⟩ := List.mem_map.1 hx
  exact allocatedTo_eq_zero (h request hrequest)

theorem shareAmount_stored {x : ℚ} (h0 : 0 ≤ x) (hle : x ≤ 10 ^ 12) : ShareAmount (stored 8 x) := by
  have hkeep : stored 8 (10 ^ 12) = 10 ^ 12 :=
    stored_of_mem (by exact_mod_cast natCast_mem_places (10 ^ 12) 8) (by norm_num)
  exact ⟨stored_nonneg h0 8, (stored_mono hle 8).trans hkeep.le, stored_mem 8 x⟩

section Deposit

variable {input : RecordVaultDepositInput} {amount : Decimal} {t : Date} {lot : VaultDepositLot}
  {after : VaultStore}

section

variable (hd : store.Deposited config input amount t lot after)

include hd

theorem Deposited.openRequests :
    after.openRequests = store.openRequests := by
  rw [VaultStore.openRequests, hd.requests]
  rfl

theorem Deposited.allocated (lotId : String) : after.allocated lotId = store.allocated lotId := by
  rw [VaultStore.allocated, hd.openRequests]
  rfl

theorem Deposited.requestedBy (depositorId : String) :
    after.requestedBy depositorId = store.requestedBy depositorId := by
  rw [VaultStore.requestedBy, hd.openRequests]
  rfl

theorem Deposited.nextId_le :
    store.nextId ≤ after.nextId := by
  obtain ⟨n, hn, -, hnext⟩ := hd.id
  omega

/-- The lots of the other depositors stay; the depositor's get the new one in its place. -/
theorem Deposited.lotsOf (depositorId : String) :
    if lot.depositorId = depositorId then
      ∃ front behind, store.lotsOf depositorId = front ++ behind ∧
        after.lotsOf depositorId = front ++ lot :: behind ∧ ∀ b ∈ behind, ¬ lotBefore b lot = true
    else after.lotsOf depositorId = store.lotsOf depositorId := by
  split_ifs with hdep
  · obtain ⟨front, behind, hstore, hafter, hbehind⟩ := StableSort.insertionSort_concat
      (r := fun a b => lotBefore a b = true)
      (store.openLots.filter fun lot => decide (lot.depositorId = depositorId)) lot
    refine ⟨front, behind, hstore, ?_, hbehind⟩
    rw [VaultStore.lotsOf, hd.openLots, List.filter_append, List.filter_singleton,
      decide_eq_true hdep]
    exact hafter
  · rw [VaultStore.lotsOf, hd.openLots, List.filter_append, List.filter_singleton,
      decide_eq_false hdep]
    simp [VaultStore.lotsOf]

theorem Deposited.activeShares_le (hminted : 0 ≤ lot.mintedShares) (depositorId : String) :
    store.activeShares depositorId ≤ after.activeShares depositorId := by
  rw [activeShares, activeShares, hd.openLots, List.filter_append, List.map_append,
    List.sum_append]
  refine le_add_of_nonneg_right (List.sum_nonneg ?_)
  intro x hx
  obtain ⟨row, hrow, rfl⟩ := List.mem_map.1 hx
  rw [List.mem_singleton.1 (List.mem_filter.1 hrow).1]
  exact hminted

end

/-- A lot that comes behind all lots that are drawn on stays untouched, and the draw of the
requested total is still what was recorded. -/
theorem Deposited.recorded (h : store.Reserved)
    (hd : store.Deposited config input amount t lot after) (hminted : ShareAmount lot.mintedShares)
    (hbehind : store.BehindDrawnLots config input.walletAddress t) (depositorId : String) :
    (after.lotsOf depositorId).map (fun lot => after.allocated lot.id) =
      draw ((after.lotsOf depositorId).map VaultDepositLot.mintedShares)
        (after.requestedBy depositorId) := by
  have hlotsOf := hd.lotsOf depositorId
  have hrecorded := h.recorded depositorId
  have hallocated : (fun lot : VaultDepositLot => after.allocated lot.id) =
      fun lot => store.allocated lot.id := funext fun lot => hd.allocated lot.id
  rw [hallocated, hd.requestedBy]
  split_ifs at hlotsOf with hdep
  · obtain ⟨front, behind, hstore, hafter, hlater⟩ := hlotsOf
    have hmem : ∀ row ∈ front ++ behind, row ∈ store.lotsOf depositorId := by
      intro row hrow
      rwa [hstore]
    have hnonneg : ∀ row ∈ front ++ behind, 0 ≤ row.mintedShares := fun row hrow =>
      (h.lots row (mem_lotsOf.1 (hmem row hrow)).1).2.1.nonneg
    have hnew : store.allocated lot.id = 0 := by
      refine allocated_eq_zero fun request hrequest a ha hid => ?_
      obtain ⟨row, hrow, hrowId, -⟩ := h.unlocked request hrequest a ha
      obtain ⟨n, hn, hlotId, -⟩ := hd.id
      exact (h.lots row hrow).2.2.1.ne hn (hrowId.trans (hid.trans hlotId))
    have huntouched : ∀ row ∈ behind, store.allocated row.id = 0 := by
      intro row hrow
      by_contra hne
      obtain ⟨hrowStore, hopen, hrowDep⟩ := mem_lotsOf.1 (hmem row (List.mem_append_right _ hrow))
      have hbefore := hbehind row (List.mem_filter.2 ⟨hrowStore, hopen⟩)
        (hrowDep.trans (hdep.symm.trans hd.depositorId)) hne
      refine hlater row hrow ?_
      rwa [lotBefore, decide_eq_true_eq, hd.lockExpiresAt, hd.depositedAt]
    -- Both halves of the recorded allocations are draws of their own.
    rw [hstore, List.map_append, List.map_append, draw_append] at hrecorded
    obtain ⟨hfront, hback⟩ := List.append_inj hrecorded (by simp)
    have hsum : ((front ++ behind).map VaultDepositLot.mintedShares).sum =
        store.activeShares depositorId := by
      rw [← hstore, sum_lotsOf]
    rw [hafter, List.map_append, List.map_append, List.map_cons, List.map_cons, hnew, hfront, hback]
    refine (draw_insert ?_ ?_ hminted.nonneg (h.requestedBy_nonneg depositorId) ?_ ?_).symm
    · intro c hc
      obtain ⟨row, hrow, rfl⟩ := List.mem_map.1 hc
      exact hnonneg row (List.mem_append_left _ hrow)
    · intro c hc
      obtain ⟨row, hrow, rfl⟩ := List.mem_map.1 hc
      exact hnonneg row (List.mem_append_right _ hrow)
    · rw [← List.map_append, hsum]
      exact h.covered depositorId
    · rw [← hback]
      intro a ha
      obtain ⟨row, hrow, rfl⟩ := List.mem_map.1 ha
      exact huntouched row hrow
  · rw [hlotsOf]
    exact hrecorded

theorem Deposited.reserved (h : store.Reserved)
    (hd : store.Deposited config input amount t lot after) (hpos : 0 < amount)
    (hle : amount / store.sharePrice ≤ 10 ^ 12)
    (hbehind : store.BehindDrawnLots config input.walletAddress t) : after.Reserved := by
  have hminted : ShareAmount lot.mintedShares := by
    rw [hd.mintedShares]
    exact shareAmount_stored (div_nonneg hpos.le store.sharePrice_pos.le) hle
  have hnextId := hd.nextId_le
  have hopenLot : lot.isOpen = true := by simp [VaultDepositLot.isOpen, hd.status]
  have hdepositor : after.Issued lot.depositorId := by
    obtain ⟨n, hn, -, hnext⟩ := hd.id
    rw [hd.depositorId, depositorIdFor]
    cases hfound : store.depositorByWallet input.walletAddress with
    | none => exact ⟨store.nextId, by omega, rfl⟩
    | some depositor =>
      exact (h.depositors depositor (List.mem_of_find?_eq_some hfound)).mono hnextId
  have hid : after.Issued lot.id := by
    obtain ⟨n, hn, hid, hnext⟩ := hd.id
    exact ⟨n, by omega, hid⟩
  exact
    { lots := by
        intro row hrow
        rw [hd.lots] at hrow
        rcases List.mem_append.1 hrow with hrow | hrow
        · obtain ⟨hopen, hshares, hrowId, hrowDep⟩ := h.lots row hrow
          exact ⟨hopen, hshares, hrowId.mono hnextId, hrowDep.mono hnextId⟩
        · rw [List.mem_singleton.1 hrow]
          exact ⟨hopenLot, hminted, hid, hdepositor⟩
      lotIds := by
        rw [hd.lots, List.map_append, List.nodup_append]
        refine ⟨h.lotIds, by simp, ?_⟩
        intro rowId hrowId newId hnewId
        obtain ⟨row, hrow, rfl⟩ := List.mem_map.1 hrowId
        obtain ⟨n, hn, hlotId, -⟩ := hd.id
        rw [List.mem_singleton.1 hnewId, hlotId]
        exact (h.lots row hrow).2.2.1.ne hn
      depositors := by
        intro depositor hmem
        rcases hd.depositors depositor hmem with heq | hold
        · rw [heq]
          exact hdepositor
        · obtain ⟨row, hrow, hrowId⟩ := List.mem_map.1 hold
          rw [← hrowId]
          exact (h.depositors row hrow).mono hnextId
      requests := by
        intro request hrequest
        rw [hd.requests] at hrequest
        exact (h.requests request hrequest).imp_right fun hissued => hissued.mono hnextId
      covered := by
        intro depositorId
        rw [hd.requestedBy]
        exact (h.covered depositorId).trans (hd.activeShares_le hminted.nonneg depositorId)
      recorded := hd.recorded h hminted hbehind
      totals := by
        rw [hd.openRequests]
        exact h.totals
      unlocked := by
        intro request hrequest a ha
        rw [hd.openRequests] at hrequest
        obtain ⟨row, hrow, hrowId⟩ := h.unlocked request hrequest a ha
        exact ⟨row, by rw [hd.lots]; exact List.mem_append_left _ hrow, hrowId⟩ }

end Deposit

/-! ## Requests -/

/-- An accepted request is planned with the lots and the requests that are there, and appended. -/
structure Redeemed (store : VaultStore) (input : RequestVaultRedemptionInput) (r : Decimal)
    (plan : List VaultAllocation × Date) (row : VaultRedemptionRequest) (after : VaultStore) :
    Prop where
  planned : ∃ requestedAt, planRedemption (store.lotsOf row.depositorId)
    (store.requestsOf row.depositorId) r requestedAt = .ok plan
  depositor : ∃ depositor ∈ store.depositors, depositor.id = row.depositorId
  requestedShares : row.requestedShares = formatDecimal r
  allocations : row.allocations = plan.1
  eligibleAt : row.eligibleAt = plan.2
  isOpen : row.isOpen = true
  requests : after.requests = store.requests ++ [row]
  lots : after.lots = store.lots
  depositors : after.depositors = store.depositors
  nextId : store.nextId ≤ after.nextId

/-- Only the row of the vault itself may differ. -/
def SameShares (before after : VaultStore) : Prop :=
  after.depositors = before.depositors ∧ after.lots = before.lots ∧
    after.requests = before.requests ∧ after.nextId = before.nextId

theorem isOpen_toRow (record : VaultRecord) (depositorId : String)
    (input : RequestVaultRedemptionInput) (r navPerShare : Decimal) (requestedAt : Date)
    (plan : List VaultAllocation × Date) (id : String) :
    ((newRequest record depositorId input r navPerShare requestedAt plan).toRow id).isOpen =
      true := by
  simp only [VaultRedemptionRequest.isOpen, NewRequest.toRow, newRequest]
  split_ifs <;> rfl

/-- The input passes the checks: it names a positive number of shares and a time. -/
structure Requested (input : RequestVaultRedemptionInput) (now : Date) (r : Decimal) (t : Date) :
    Prop where
  requestedShares : input.requestedShares = .finite r
  positive : 0 < r
  requestedAt : input.requestedAt.getD (some now) = some t

/-- The lots do not give a request. -/
def Unplanned (store : VaultStore) (walletAddress : String) (r : Decimal) (t : Date) : Prop :=
  ∀ depositor, store.depositorByWallet walletAddress = some depositor → ∀ plan,
    planRedemption (store.lotsOf depositor.id) (store.requestsOf depositor.id) r t ≠ .ok plan

/-- A request is refused by the checks and leaves the store alone, or is refused later and writes the
vault's row at most, or is accepted. -/
theorem requestVaultRedemption_cases (config : VaultConfig) (store : VaultStore)
    (input : RequestVaultRedemptionInput) (now : Date) :
    (∃ message after, (requestVaultRedemption input now).run (handleVault config) store =
        (.error message, after) ∧ store.SameShares after ∧
          (after = store ∨
            ∃ r t, Requested input now r t ∧ store.Unplanned input.walletAddress r t)) ∨
      ∃ r t plan row after, (requestVaultRedemption input now).run (handleVault config) store =
          (.ok row, after) ∧ Requested input now r t ∧ Redeemed store input r plan row after := by
  unfold requestVaultRedemption
  cases ht : readTimestamp input.requestedAt now
      "Vault redemption requires a valid requestedAt timestamp when provided." with
  | error message => exact Or.inl ⟨message, store, rfl, ⟨rfl, rfl, rfl, rfl⟩, Or.inl rfl⟩
  | ok requestedAt =>
    cases ha : input.requestedShares.positive
        "Vault redemption shares must be greater than zero." with
    | error message => exact Or.inl ⟨message, store, rfl, ⟨rfl, rfl, rfl, rfl⟩, Or.inl rfl⟩
    | ok r =>
      obtain ⟨hfinite, hpos⟩ := (positive_ok_iff _ _ _).1 ha
      have hrequested : Requested input now r requestedAt :=
        ⟨hfinite, hpos, (readTimestamp_ok_iff _ _ _ _).1 ht⟩
      simp only [redeem]
      have hensure : handleVault config .ensureVaultCurrentRecord store =
          (.ok (store.ensureVaultCurrentRecord config).1,
            (store.ensureVaultCurrentRecord config).2) := rfl
      have hselect : handleVault config (.selectDepositor input.walletAddress)
          (store.ensureVaultCurrentRecord config).2 =
          (.ok (store.depositorByWallet input.walletAddress),
            (store.ensureVaultCurrentRecord config).2) := rfl
      rw [Task.run_call_bind_of_eq _ hensure, Task.run_call_bind_of_eq _ hselect]
      cases hfound : store.depositorByWallet input.walletAddress with
      | none =>
        refine Or.inl ⟨_, _, rfl, ⟨rfl, rfl, rfl, rfl⟩, Or.inr ⟨r, requestedAt, hrequested, ?_⟩⟩
        intro depositor hdepositor
        rw [hfound] at hdepositor
        cases hdepositor
      | some depositor =>
        have hlots : handleVault config (.selectLots depositor.id)
            (store.ensureVaultCurrentRecord config).2 =
            (.ok (store.lotsOf depositor.id), (store.ensureVaultCurrentRecord config).2) := rfl
        have hrequests : handleVault config (.selectRequests depositor.id)
            (store.ensureVaultCurrentRecord config).2 =
            (.ok (store.requestsOf depositor.id), (store.ensureVaultCurrentRecord config).2) := rfl
        rw [Task.run_call_bind_of_eq _ hlots, Task.run_call_bind_of_eq _ hrequests,
          Task.run_call_bind_of_eq _ rfl]
        cases hplan : planRedemption (store.lotsOf depositor.id) (store.requestsOf depositor.id) r
            requestedAt with
        | error message =>
          refine Or.inl ⟨message, _, rfl, ⟨rfl, rfl, rfl, rfl⟩,
            Or.inr ⟨r, requestedAt, hrequested, ?_⟩⟩
          intro other hother plan hok
          obtain rfl : depositor = other := Option.some.inj (hfound.symm.trans hother)
          rw [hplan] at hok
          cases hok
        | ok plan =>
          refine Or.inr ⟨r, requestedAt, plan, _, _, rfl, hrequested, ?_⟩
          exact
            { planned := ⟨requestedAt, hplan⟩
              depositor := ⟨depositor, List.mem_of_find?_eq_some hfound, rfl⟩
              requestedShares := rfl
              allocations := rfl
              eligibleAt := rfl
              isOpen := isOpen_toRow _ _ _ _ _ _ _ _
              requests := rfl
              lots := rfl
              depositors := rfl
              nextId := Nat.le_succ _ }

section Redemption

variable {input : RequestVaultRedemptionInput} {r : Decimal}
  {plan : List VaultAllocation × Date} {row : VaultRedemptionRequest} {after : VaultStore}

section

variable (hr : Redeemed store input r plan row after)

include hr

theorem Redeemed.openLots :
    after.openLots = store.openLots := by
  rw [VaultStore.openLots, hr.lots]
  rfl

theorem Redeemed.openRequests :
    after.openRequests = store.openRequests ++ [row] := by
  rw [VaultStore.openRequests, hr.requests, List.filter_append, List.filter_singleton, hr.isOpen]
  rfl

theorem Redeemed.allocated (lotId : String) :
    after.allocated lotId = store.allocated lotId + allocatedTo plan.1 lotId := by
  rw [VaultStore.allocated, hr.openRequests, List.map_append, List.sum_append, List.map_singleton,
    List.sum_singleton, hr.allocations]
  rfl

theorem Redeemed.requestedBy (depositorId : String) :
    after.requestedBy depositorId = store.requestedBy depositorId +
      if row.depositorId = depositorId then formatDecimal r else 0 := by
  rw [VaultStore.requestedBy, hr.openRequests, List.filter_append, List.filter_singleton,
    requestedTotal, List.map_append, List.sum_append]
  split_ifs with hdep
  · rw [decide_eq_true hdep, cond_true, List.map_singleton, List.sum_singleton, hr.requestedShares]
    rfl
  · rw [decide_eq_false hdep]
    simp [VaultStore.requestedBy, requestedTotal]

theorem Redeemed.lotsOf (depositorId : String) :
    after.lotsOf depositorId = store.lotsOf depositorId := by
  rw [VaultStore.lotsOf, hr.openLots]
  rfl

theorem Redeemed.activeShares (depositorId : String) :
    after.activeShares depositorId = store.activeShares depositorId := by
  rw [VaultStore.activeShares, hr.openLots]
  rfl

end

theorem nodup_lotsOf (h : store.Reserved) (depositorId : String) :
    ((store.lotsOf depositorId).map VaultDepositLot.id).Nodup := by
  rw [((lotsOf_perm depositorId).map VaultDepositLot.id).nodup_iff]
  exact h.lotIds.sublist (List.Sublist.map _ (List.filter_sublist.trans List.filter_sublist))

theorem Reserved.shareAmounts (h : store.Reserved) (depositorId : String) :
    (∀ lot ∈ store.lotsOf depositorId, ShareAmount lot.mintedShares) ∧
      ∀ request ∈ store.requestsOf depositorId, ShareAmount request.requestedShares :=
  ⟨fun lot hlot => (h.lots lot (mem_lotsOf.1 hlot).1).2.1, fun request hrequest =>
    (h.requests request (mem_requests_of_mem_openRequests (mem_requestsOf.1 hrequest).1)).1⟩

theorem Redeemed.plannedTotal (h : store.Reserved) (hr : Redeemed store input r plan row after)
    (hrequestable : Requestable r) :
    Planned (store.lotsOf row.depositorId) (store.requestsOf row.depositorId) r plan := by
  obtain ⟨requestedAt, hplan⟩ := hr.planned
  obtain ⟨hlots, hrequests⟩ := h.shareAmounts row.depositorId
  exact planRedemption_planned hlots hrequests hrequestable hplan

theorem Redeemed.reserved (h : store.Reserved) (hr : Redeemed store input r plan row after)
    (hrequestable : Requestable r) : after.Reserved := by
  have hplanned := hr.plannedTotal h hrequestable
  have hshares := hrequestable.shareAmount
  have hdepositor : after.Issued row.depositorId := by
    obtain ⟨depositor, hmem, hid⟩ := hr.depositor
    rw [← hid]
    exact (h.depositors depositor hmem).mono hr.nextId
  have hunlocked : ∀ a ∈ plan.1, ∃ lot ∈ store.lots, lot.id = a.lotId ∧
      lot.lockExpiresAt ≤ row.eligibleAt ∧ lot.depositorId = row.depositorId := by
    intro a ha
    obtain ⟨lot, hlot, hid, hlock⟩ := hplanned.unlocked a ha
    obtain ⟨hstore, -, hdep⟩ := mem_lotsOf.1 hlot
    exact ⟨lot, hstore, hid, by rwa [hr.eligibleAt], hdep⟩
  exact
    { lots := by
        intro lot hlot
        rw [hr.lots] at hlot
        obtain ⟨hopen, hminted, hid, hdep⟩ := h.lots lot hlot
        exact ⟨hopen, hminted, hid.mono hr.nextId, hdep.mono hr.nextId⟩
      lotIds := by
        rw [hr.lots]
        exact h.lotIds
      depositors := by
        intro depositor hmem
        rw [hr.depositors] at hmem
        exact (h.depositors depositor hmem).mono hr.nextId
      requests := by
        intro request hrequest
        rw [hr.requests] at hrequest
        rcases List.mem_append.1 hrequest with hrequest | hrequest
        · exact (h.requests request hrequest).imp_right fun hissued => hissued.mono hr.nextId
        · rw [List.mem_singleton.1 hrequest, hr.requestedShares]
          exact ⟨hshares, hdepositor⟩
      covered := by
        intro depositorId
        rw [hr.requestedBy, hr.activeShares]
        split_ifs with hdep
        · have hcovered := hplanned.covered
          rw [requestedTotal_requestsOf, sum_lotsOf, hdep] at hcovered
          exact hcovered
        · rw [add_zero]
          exact h.covered depositorId
      recorded := by
        intro depositorId
        have hallocated : (fun lot : VaultDepositLot => after.allocated lot.id) =
            fun lot => store.allocated lot.id + allocatedTo plan.1 lot.id :=
          funext fun lot => hr.allocated lot.id
        rw [hallocated, hr.lotsOf, hr.requestedBy]
        split_ifs with hdep
        · -- The new draw continues the recorded one.
          have hnonneg : ∀ c ∈ (store.lotsOf depositorId).map VaultDepositLot.mintedShares,
              0 ≤ c := by
            intro c hc
            obtain ⟨lot, hlot, rfl⟩ := List.mem_map.1 hc
            exact (h.lots lot (mem_lotsOf.1 hlot).1).2.1.nonneg
          have hnew := hplanned.recorded (nodup_lotsOf h _)
          rw [requestedTotal_requestsOf, hdep] at hnew
          rw [draw_add hnonneg (h.requestedBy_nonneg depositorId) hshares.nonneg, ← hnew,
            ← h.recorded, List.zipWith_map, List.zipWith_self]
        · -- The lots of the other depositors are not drawn on.
          rw [add_zero, ← h.recorded]
          refine List.map_congr_left fun lot hlot => ?_
          obtain ⟨hstore, -, hlotDep⟩ := mem_lotsOf.1 hlot
          rw [allocatedTo_eq_zero, add_zero]
          intro a ha hid
          obtain ⟨lot', hlot', hid', -, hdep'⟩ := hunlocked a ha
          obtain rfl : lot' = lot :=
            List.inj_on_of_nodup_map h.lotIds hlot' hstore (hid'.trans hid)
          exact hdep (hdep'.symm.trans hlotDep)
      totals := by
        intro request hrequest
        rw [hr.openRequests] at hrequest
        rcases List.mem_append.1 hrequest with hrequest | hrequest
        · exact h.totals request hrequest
        · rw [List.mem_singleton.1 hrequest, hr.allocations, hr.requestedShares]
          exact hplanned.total
      unlocked := by
        intro request hrequest a ha
        rw [hr.openRequests] at hrequest
        rw [hr.lots]
        rcases List.mem_append.1 hrequest with hrequest | hrequest
        · exact h.unlocked request hrequest a ha
        · rw [List.mem_singleton.1 hrequest] at ha ⊢
          rw [hr.allocations] at ha
          obtain ⟨lot, hlot, hid, hlock, -⟩ := hunlocked a ha
          exact ⟨lot, hlot, hid, hlock⟩ }

theorem SameShares.reserved (h : store.Reserved) (hsame : store.SameShares after) :
    after.Reserved := by
  obtain ⟨vaults, depositors, lots, requests, portfolio, nextId⟩ := after
  obtain ⟨rfl, rfl, rfl, rfl⟩ := hsame
  exact
    { lots := h.lots
      lotIds := h.lotIds
      depositors := h.depositors
      requests := h.requests
      covered := h.covered
      recorded := h.recorded
      totals := h.totals
      unlocked := h.unlocked }

/-- The wallet is that of a depositor who has the shares beside the open requests. -/
def Covers (store : VaultStore) (walletAddress : String) (r : Decimal) : Bool :=
  (store.depositorByWallet walletAddress).any fun depositor =>
    decide (store.requestedBy depositor.id + r ≤ store.activeShares depositor.id)

theorem not_covers_of_unplanned (h : store.Reserved) (hr : Requestable r) {walletAddress : String}
    {t : Date} (hunplanned : store.Unplanned walletAddress r t) :
    ¬ store.Covers walletAddress r = true := by
  intro hcovers
  simp only [Covers, Option.any_eq_true, decide_eq_true_eq] at hcovers
  obtain ⟨depositor, hfound, hfits⟩ := hcovers
  obtain ⟨hlots, hrequests⟩ := h.shareAmounts depositor.id
  rw [← requestedTotal_requestsOf, ← sum_lotsOf] at hfits
  obtain ⟨plan, hplan⟩ := planRedemption_isOk hlots hrequests hr hfits t
  exact hunplanned depositor hfound plan hplan

end Redemption

end Store

/-! ## Runs -/

inductive VaultOperation where
  | deposit (input : RecordVaultDepositInput) (now : Date)
  | redeem (input : RequestVaultRedemptionInput) (now : Date)

def VaultOperation.perform (config : VaultConfig) (store : VaultStore) :
    VaultOperation → Option String × VaultStore
  | .deposit input now =>
    match store.recordVaultDeposit config input now with
    | (.ok _, after) => (none, after)
    | (.error message, after) => (some message, after)
  | .redeem input now =>
    match (requestVaultRedemption input now).run (handleVault config) store with
    | (.ok _, after) => (none, after)
    | (.error message, after) => (some message, after)

structure VaultStep where
  before : VaultStore
  operation : VaultOperation
  refusal : Option String
  after : VaultStore

def vaultSteps (config : VaultConfig) : VaultStore → List VaultOperation → List VaultStep
  | _, [] => []
  | store, operation :: operations =>
    let answer := operation.perform config store
    ⟨store, operation, answer.1, answer.2⟩ :: vaultSteps config answer.2 operations

/-- An accepted deposit unlocks behind every lot that its depositor has drawn on, and mints at most
`10 ^ 12` shares; a request names an amount of at most twenty digits. -/
def VaultStep.Orderly (config : VaultConfig) (step : VaultStep) : Prop :=
  match step.operation with
  | .deposit input now => ∀ amount t, Accepted input now amount t →
      amount / step.before.sharePrice ≤ 10 ^ 12 ∧
        step.before.BehindDrawnLots config input.walletAddress t
  | .redeem input now => ∀ r t, Requested input now r t → Requestable r

/-- A request that passes the checks is one of a known depositor who has the shares. -/
def VaultStep.Covered (step : VaultStep) : Prop :=
  match step.operation with
  | .deposit _ _ => True
  | .redeem input now => ∀ r t, Requested input now r t →
      step.before.Covers input.walletAddress r = true

/-- What every step of an orderly run guarantees. -/
structure VaultStep.Sound (step : VaultStep) : Prop where
  after : step.after.NoShareTwice
  refused : step.Covered → step.refusal ≠ none → step.after = step.before

theorem Reserved.perform {config : VaultConfig} {store : VaultStore} (h : store.Reserved)
    (operation : VaultOperation)
    (horderly : VaultStep.Orderly config ⟨store, operation, (operation.perform config store).1,
      (operation.perform config store).2⟩) :
    (operation.perform config store).2.Reserved ∧
      (VaultStep.Covered ⟨store, operation, (operation.perform config store).1,
          (operation.perform config store).2⟩ →
        (operation.perform config store).1 ≠ none →
          (operation.perform config store).2 = store) := by
  cases operation with
  | deposit input now =>
    rcases store.recordVaultDeposit_cases config input now with
      ⟨message, hr⟩ | ⟨amount, t, lot, after, hr, hacc, hd⟩
    · simp only [VaultOperation.perform, hr]
      exact ⟨h, fun _ _ => trivial⟩
    · obtain ⟨hle, hbehind⟩ := horderly amount t hacc
      simp only [VaultOperation.perform, hr]
      exact ⟨hd.reserved h hacc.positive hle hbehind, fun _ hne => absurd rfl hne⟩
  | redeem input now =>
    rcases requestVaultRedemption_cases config store input now with
      ⟨message, after, hr, hsame, hrefused⟩ | ⟨r, t, plan, row, after, hr, hrequested, hredeemed⟩
    · simp only [VaultOperation.perform, hr]
      refine ⟨hsame.reserved h, fun hcovered _ => ?_⟩
      rcases hrefused with hafter | ⟨r, t, hrequested, hunplanned⟩
      · exact hafter
      · exact absurd (hcovered r t hrequested)
          (not_covers_of_unplanned h (horderly r t hrequested) hunplanned)
    · simp only [VaultOperation.perform, hr]
      exact ⟨hredeemed.reserved h (horderly r t hrequested), fun _ hne => absurd rfl hne⟩

theorem Reserved.steps {config : VaultConfig} {store : VaultStore} (h : store.Reserved)
    {operations : List VaultOperation}
    (horderly : ∀ step ∈ vaultSteps config store operations, step.Orderly config) :
    ∀ step ∈ vaultSteps config store operations, step.Sound := by
  induction operations generalizing store with
  | nil => simp [vaultSteps]
  | cons operation operations ih =>
    obtain ⟨hafter, hrefused⟩ := h.perform operation (horderly _ List.mem_cons_self)
    intro step hstep
    rcases List.mem_cons.1 hstep with rfl | hstep
    · exact ⟨hafter.noShareTwice, hrefused⟩
    · exact ih hafter (fun step' h' => horderly step' (List.mem_cons_of_mem _ h')) step hstep

theorem reserved_newVault (vaults : List VaultRecord) (portfolio : Option VaultPortfolio)
    (nextId : ℕ) : (newVault vaults portfolio nextId).Reserved where
  lots := by simp [newVault]
  lotIds := by simp [newVault]
  depositors := by simp [newVault]
  requests := by simp [newVault]
  covered := fun _ => le_rfl
  recorded := fun _ => rfl
  totals := by simp [newVault, openRequests]
  unlocked := by simp [newVault, openRequests]

def depositOf (amount : Decimal) (depositedAt : Date) : VaultOperation :=
  .deposit
    { investorId := "investor"
      displayName := "Investor"
      walletAddress := "wallet"
      amountUsdc := .finite amount
      depositedAt := some (some depositedAt) } 0

def redemptionOf (shares : Decimal) : VaultOperation :=
  .redeem { walletAddress := "wallet", requestedShares := .finite shares } 0

/-- Ten shares are deposited and redeemed in two requests; one for no shares is refused. -/
def sampleOperations : List VaultOperation :=
  [depositOf 10 0, redemptionOf 4, redemptionOf 0, redemptionOf 6]

end VaultStore

end SentinelApex
