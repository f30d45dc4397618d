import SentinelApex.Lib.TaskContract
import SentinelApex.Runtime.VaultDraws

/-!
# Concurrent redemption requests

A redemption request reads the depositor's open requests and inserts its own row in a later
statement. So concurrent requests stay within the depositor's shares as long as every insertion
still finds the requests that were read.
-/

namespace SentinelApex

open Async Decimal

variable {lots : String → List VaultDepositLot}

namespace VaultStore

/-- The contract of a redemption request over the open lots of each depositor. The note is the list
of requests that it has read. -/
def redemption (lots : String → List VaultDepositLot) :
    Contract VaultCall VaultCall.Reply String (List VaultRedemptionRequest) where
  reply
    | .selectLots depositorId, r => r = .ok (lots depositorId)
    | .selectRequests _, r =>
      ∀ requests, r = .ok requests → ∀ request ∈ requests, ShareAmount request.requestedShares
    | _, _ => True
  permits
    | .insertRequest new, seen => ShareAmount new.requestedShares ∧
      requestedTotal seen + new.requestedShares ≤
        ((lots new.depositorId).map VaultDepositLot.mintedShares).sum
    | _, _ => True
  note
    | .selectRequests _, .ok requests, _ => requests
    | _, _, seen => seen

/-- An insertion finds the requests of the depositor that the call has read. -/
def FreshInsert : VaultCall → VaultStore → List VaultRedemptionRequest → Prop
  | .insertRequest new, store, seen => store.requestsOf new.depositorId = seen
  | _, _, _ => True

instance (c : VaultCall) (store : VaultStore) (seen : List VaultRedemptionRequest) :
    Decidable (FreshInsert c store seen) :=
  match c with
  | .insertRequest new => inferInstanceAs (Decidable (store.requestsOf new.depositorId = seen))
  | .ensureVaultCurrentRecord | .selectDepositor _ | .selectLots _ | .selectRequests _
  | .getVaultSummary _ | .touchVault => .isTrue trivial

theorem redeem_follows
    (hlots : ∀ depositorId, ∀ lot ∈ lots depositorId, ShareAmount lot.mintedShares)
    (input : RequestVaultRedemptionInput) {r : Decimal} (hr : Requestable r)
    (requestedAt now : Date) (seen : List VaultRedemptionRequest) :
    (redemption lots).Follows (redeem input r requestedAt now) seen := by
  refine Contract.follows_call_bind _ trivial fun record _ => ?_
  refine Contract.follows_call_bind _ trivial fun depositor _ => ?_
  cases depositor with
  | none => trivial
  | some depositor =>
    refine Contract.follows_call_bind _ trivial fun rows hrows => ?_
    obtain rfl : rows = lots depositor.id := Except.ok.inj hrows
    refine Contract.follows_call_bind _ trivial fun requests hrequests => ?_
    refine Contract.follows_call_bind _ trivial fun summary _ => ?_
    cases hplan : planRedemption (lots depositor.id) requests r requestedAt with
    | error message => trivial
    | ok plan =>
      have hplanned := planRedemption_planned (hlots depositor.id) (hrequests requests rfl) hr hplan
      refine Contract.follows_call_bind _ ⟨hr.shareAmount, hplanned.covered⟩ fun row _ => ?_
      exact Contract.follows_call_bind _ trivial fun _ _ => trivial

/-- The calls name amounts of at most twenty digits. -/
theorem requestVaultRedemption_follows
    (hlots : ∀ depositorId, ∀ lot ∈ lots depositorId, ShareAmount lot.mintedShares)
    {input : RequestVaultRedemptionInput}
    (hinput : ∀ r, input.requestedShares = .finite r → 0 < r → Requestable r) (now : Date)
    (seen : List VaultRedemptionRequest) :
    (redemption lots).Follows (requestVaultRedemption input now) seen := by
  unfold requestVaultRedemption
  cases readTimestamp input.requestedAt now
      "Vault redemption requires a valid requestedAt timestamp when provided." with
  | error message => trivial
  | ok requestedAt =>
    cases hpositive : input.requestedShares.positive
        "Vault redemption shares must be greater than zero." with
    | error message => trivial
    | ok r =>
      obtain ⟨hfinite, hpos⟩ := (positive_ok_iff _ _ _).1 hpositive
      exact redeem_follows hlots input (hinput r hfinite hpos) requestedAt now seen

/-- What the interleaved statements keep: the lots, and that the requests are covered by them. -/
structure Covered (lots : String → List VaultDepositLot) (store : VaultStore) : Prop where
  lots : store.lotsOf = lots
  requests : ∀ request ∈ store.requests, ShareAmount request.requestedShares
  covered : ∀ depositorId, store.requestedBy depositorId ≤ store.activeShares depositorId

theorem requestedBy_append_le {store after : VaultStore} (row : VaultRedemptionRequest)
    (hrequests : after.requests = store.requests ++ [row]) (h0 : 0 ≤ row.requestedShares)
    (depositorId : String) :
    after.requestedBy depositorId ≤
      store.requestedBy depositorId +
        if row.depositorId = depositorId then row.requestedShares else 0 := by
  rw [requestedBy, openRequests, hrequests, List.filter_append, List.filter_append, requestedTotal,
    List.map_append, List.sum_append]
  refine add_le_add_right ?_ (store.requestedBy depositorId)
  by_cases hopen : row.isOpen = true <;> by_cases hdep : row.depositorId = depositorId
  · simp [hopen, hdep]
  · simp [hopen, hdep]
  · simpa [hopen, hdep] using h0
  · simp [hopen, hdep]

theorem Covered.insertRequest {store : VaultStore} (h : Covered lots store) {new : NewRequest}
    {seen : List VaultRedemptionRequest} (hnew : ShareAmount new.requestedShares)
    (hfits : requestedTotal seen + new.requestedShares ≤
      ((lots new.depositorId).map VaultDepositLot.mintedShares).sum)
    (hfresh : store.requestsOf new.depositorId = seen) :
    Covered lots (store.insertRequest new).2 where
  lots := h.lots
  requests := by
    intro request hrequest
    rcases List.mem_append.1 hrequest with hrequest | hrequest
    · exact h.requests request hrequest
    · rw [List.mem_singleton.1 hrequest]
      exact hnew
  covered := by
    intro depositorId
    have hinserted : (store.insertRequest new).2.requestedBy depositorId ≤
        store.requestedBy depositorId +
          if new.depositorId = depositorId then new.requestedShares else 0 :=
      requestedBy_append_le (new.toRow (toString store.nextId)) rfl hnew.nonneg depositorId
    have hactive : (store.insertRequest new).2.activeShares depositorId =
        store.activeShares depositorId := rfl
    rw [← hfresh, requestedTotal_requestsOf, ← h.lots, sum_lotsOf] at hfits
    rw [hactive]
    refine hinserted.trans ?_
    by_cases hdep : new.depositorId = depositorId
    · rw [if_pos hdep, ← hdep]
      exact hfits
    · rw [if_neg hdep, add_zero]
      exact h.covered depositorId

/-- Concurrent requests stay within the shares of their depositors under every schedule in which
each insertion finds the requests that its call has read. -/
theorem redemptions_covered {ι : Type} [DecidableEq ι] (config : VaultConfig) (store : VaultStore)
    (hlots : ∀ lot ∈ store.lots, ShareAmount lot.mintedShares)
    (hrequests : ∀ request ∈ store.requests, ShareAmount request.requestedShares)
    (hcovered : ∀ depositorId, store.requestedBy depositorId ≤ store.activeShares depositorId)
    (inputs : ι → RequestVaultRedemptionInput) (nows : ι → Date)
    (hinputs : ∀ i r, (inputs i).requestedShares = .finite r → 0 < r → Requestable r)
    (sched : List ι)
    (hsched : (redemption store.lotsOf).ScheduleMeets (handleVault config) FreshInsert sched
      (fun i => requestVaultRedemption (inputs i) (nows i)) store fun _ => []) (depositorId : String) :
    (runPool (handleVault config) sched (fun i => requestVaultRedemption (inputs i) (nows i))
        store).2.requestedBy depositorId ≤
      (runPool (handleVault config) sched (fun i => requestVaultRedemption (inputs i) (nows i))
        store).2.activeShares depositorId := by
  refine (Contract.runPool_of_follows (J := Covered store.lotsOf) ?_ ?_ hsched ?_
    ⟨rfl, hrequests, hcovered⟩).covered depositorId
  · intro c s hs
    cases c with
    | selectLots depositorId => exact congrArg Except.ok (congrFun hs.lots depositorId)
    | selectRequests depositorId =>
      intro requests hr request hrequest
      obtain rfl : s.requestsOf depositorId = requests := Except.ok.inj hr
      exact hs.requests request
        (mem_requests_of_mem_openRequests (mem_requestsOf.1 hrequest).1)
    | _ => trivial
  · intro c s seen hs hpermits hfresh
    cases c with
    | insertRequest new => exact hs.insertRequest hpermits.1 hpermits.2 hfresh
    | ensureVaultCurrentRecord => exact ⟨hs.lots, hs.requests, hs.covered⟩
    | _ => exact hs
  · intro i
    refine requestVaultRedemption_follows ?_ (hinputs i) (nows i) []
    intro depositorId lot hlot
    exact hlots lot (mem_lotsOf.1 hlot).1

def sampleRedemption (shares : Decimal) : RequestVaultRedemptionInput :=
  { walletAddress := "wallet", requestedShares := .finite shares }

def tenShares : VaultStore :=
  ((depositOf 10 0).perform sampleVaultConfig (newVault [] none 0)).2

/-- Both calls read the requests before either of them inserts its own. -/
def overlapping : List (Fin 2) := [0, 0, 0, 0, 0, 1, 1, 1, 1, 1, 0, 1]

theorem concurrent_redemptions_overdraw :
    (runPool (handleVault sampleVaultConfig) overlapping
        (fun _ => requestVaultRedemption (sampleRedemption 10) 0) tenShares).2.activeShares "0" = 10 ∧
      (runPool (handleVault sampleVaultConfig) overlapping
        (fun _ => requestVaultRedemption (sampleRedemption 10) 0) tenShares).2.requestedBy "0" =
          20 := by
  decide +kernel

/-- One after the other, the second call is refused. -/
theorem redemptions_covered_in_turn :
    (runPool (handleVault sampleVaultConfig) [0, 0, 0, 0, 0, 0, 1, 1, 1, 1, 1, 1]
        (fun _ : Fin 2 => requestVaultRedemption (sampleRedemption 10) 0)
        tenShares).2.requestedBy "0" ≤
      (runPool (handleVault sampleVaultConfig) [0, 0, 0, 0, 0, 0, 1, 1, 1, 1, 1, 1]
        (fun _ : Fin 2 => requestVaultRedemption (sampleRedemption 10) 0)
        tenShares).2.activeShares "0" := by
  have hreserved : tenShares.Reserved := by
    refine ((reserved_newVault [] none 0).perform (depositOf 10 0) ?_).1
    intro amount t hacc
    obtain rfl : (10 : Decimal) = amount := AmountText.finite.inj hacc.amountUsdc
    exact ⟨by decide +kernel, fun lot hlot => absurd hlot (List.not_mem_nil)⟩
  refine redemptions_covered sampleVaultConfig tenShares (fun lot hlot => (hreserved.lots lot hlot).2.1)
    (fun request hrequest => (hreserved.requests request hrequest).1) hreserved.covered
    (fun _ => sampleRedemption 10) (fun _ => 0) ?_ _ ?_ "0"
  · intro i r hr _
    obtain rfl : (10 : Decimal) = r := AmountText.finite.inj hr
    exact ⟨by norm_num, -8, le_rfl, natCast_mem_places 10 8, by norm_num [abs_of_pos]⟩
  · decide +kernel

end VaultStore

end SentinelApex
