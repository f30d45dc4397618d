import Mathlib.Data.List.Sort
import SentinelApex.Domain.Calendar
import SentinelApex.Lib.Task

/-!
# The vault

Deposits and redemption requests of the protocol vault. A deposit mints a lot of shares at the net
asset value per share of the summary; a request draws shares from the depositor's lots in the order
in which their locks expire.

`recordVaultDeposit` is a function on the store. `requestVaultRedemption` is a task over the
statements it awaits, since two of them may run at the same time. Decimal columns are texts with a
fixed number of places: what is stored is the rounded value.
-/

namespace SentinelApex

open Async

/-! ## Rows -/

/-- What `buildDefaultVaultConfig` reads from the environment and the carry policy. -/
structure VaultConfig where
  vaultId : String
  baseAsset : String
  lockPeriodMonths : ℤ

structure VaultRecord where
  id : String
  baseAsset : String
  lockPeriodMonths : ℤ
  deriving DecidableEq

structure VaultDepositor where
  id : String
  investorId : String
  displayName : String
  walletAddress : String
  status : String
  deriving DecidableEq

inductive VaultDepositLotStatus where
  | active
  | redeeming
  | redeemed
  deriving DecidableEq, Repr

structure VaultDepositLot where
  id : String
  vaultId : String
  depositorId : String
  asset : String
  depositedAmount : Decimal
  mintedShares : Decimal
  sharePrice : Decimal
  depositedAt : Date
  lockExpiresAt : Date
  redeemedAt : Option Date
  status : VaultDepositLotStatus
  note : Option String
  deriving DecidableEq

/-- The shares that a request draws from one lot. -/
structure VaultAllocation where
  lotId : String
  allocatedShares : Decimal
  eligibleAt : Date
  deriving DecidableEq

inductive VaultRedemptionRequestStatus where
  | pendingLock
  | queued
  | fulfilled
  | cancelled
  deriving DecidableEq, Repr

/-- A redemption request; the allocations are the ones in its metadata. -/
structure VaultRedemptionRequest where
  id : String
  vaultId : String
  depositorId : String
  requestedShares : Decimal
  estimatedAssets : Decimal
  sharePrice : Decimal
  requestedAt : Date
  eligibleAt : Date
  fulfilledAt : Option Date
  status : VaultRedemptionRequestStatus
  note : Option String
  allocations : List VaultAllocation
  deriving DecidableEq

structure VaultPortfolio where
  totalNav : Decimal
  liquidityReserve : Decimal
  deriving DecidableEq

structure VaultStore where
  vaults : List VaultRecord
  depositors : List VaultDepositor
  lots : List VaultDepositLot
  requests : List VaultRedemptionRequest
  portfolio : Option VaultPortfolio
  nextId : ℕ
  deriving DecidableEq

/-- The lot still counts: `status IN ('active', 'redeeming')`. -/
def VaultDepositLot.isOpen (lot : VaultDepositLot) : Bool :=
  decide (lot.status = .active ∨ lot.status = .redeeming)

/-- The request still counts: `status IN ('pending_lock', 'queued')`. -/
def VaultRedemptionRequest.isOpen (request : VaultRedemptionRequest) : Bool :=
  decide (request.status = .pendingLock ∨ request.status = .queued)

/-! ## Inputs -/

inductive AmountText where
  | finite (x : Decimal)
  /-- An infinity or `NaN`. -/
  | notFinite
  | malformed

def AmountText.positive (text : AmountText) (message : String) : Except String Decimal :=
  match text with
  | finite x => if x ≤ 0 then .error message else .ok x
  | notFinite => .error message
  | malformed => .error "[DecimalError] Invalid argument"

/-- An optional timestamp; `some none` is a text that is not a date. -/
abbrev OptionalTimestamp := Option (Option Date)

/-- The given time, or the current one. -/
def readTimestamp (timestamp : OptionalTimestamp) (now : Date) (message : String) :
    Except String Date :=
  match timestamp with
  | none => .ok now
  | some (some t) => .ok t
  | some none => .error message

structure RecordVaultDepositInput where
  investorId : String
  displayName : String
  walletAddress : String
  amountUsdc : AmountText
  depositedAt : OptionalTimestamp := none
  note : Option String := none

structure RequestVaultRedemptionInput where
  walletAddress : String
  requestedShares : AmountText
  requestedAt : OptionalTimestamp := none
  note : Option String := none

namespace VaultStore

def newVault (vaults : List VaultRecord) (portfolio : Option VaultPortfolio) (nextId : ℕ) :
    VaultStore := ⟨vaults, [], [], [], portfolio, nextId⟩

def sampleVaultConfig : VaultConfig := ⟨"vault", "USDC", 3⟩

/-! ## The vault's record and its summary -/

variable (config : VaultConfig) (store : VaultStore)

/-- The first row, or the defaults when there is none. -/
def getVaultCurrentRecord : VaultRecord :=
  store.vaults.head?.getD ⟨config.vaultId, config.baseAsset, config.lockPeriodMonths⟩

/-- The row of the configured vault is written with the defaults. -/
def ensureVaultCurrentRecord : VaultRecord × VaultStore :=
  let row : VaultRecord := ⟨config.vaultId, config.baseAsset, config.lockPeriodMonths⟩
  (row,
    { store with
      vaults :=
        if store.vaults.any fun existing => decide (existing.id = row.id) then
          store.vaults.map fun existing => if existing.id = row.id then row else existing
        else store.vaults ++ [row] })

def openLots : List VaultDepositLot := store.lots.filter VaultDepositLot.isOpen

def openRequests : List VaultRedemptionRequest :=
  store.requests.filter VaultRedemptionRequest.isOpen

structure Summary where
  vaultId : String
  baseAsset : String
  lockPeriodMonths : ℤ
  navPerShare : Decimal
  totalAssetsUsd : Decimal
  availableLiquidityUsd : Decimal
  totalSharesOutstanding : Decimal
  totalDepositors : ℕ
  activeDepositLots : ℕ
  lockedShares : Decimal
  unlockedShares : Decimal
  pendingRedemptionShares : Decimal

/-- `sum.plus` over the rows, from zero. -/
def total {α : Type} (value : α → Decimal) (rows : List α) : Decimal :=
  rows.foldl (fun sum row => sum.plus (value row)) 0

def totalSharesOutstanding : Decimal := total VaultDepositLot.mintedShares store.openLots

/-- The projection's net asset value, or what was deposited when there is no projection. -/
def totalAssetsUsd : Decimal :=
  match store.portfolio with
  | none => total VaultDepositLot.depositedAmount store.openLots
  | some portfolio => portfolio.totalNav

def navPerShare : Decimal :=
  if 0 < store.totalSharesOutstanding then
    store.totalAssetsUsd.div store.totalSharesOutstanding
  else 1

/-- `formatDecimal`. -/
def formatDecimal (x : Decimal) : Decimal := x.roundPlaces 8

/-- `formatMoney`. -/
def formatMoney (x : Decimal) : Decimal := x.roundPlaces 2

def getVaultSummary (now : Date) : Summary :=
  let record := store.getVaultCurrentRecord config
  let lockedShares := total VaultDepositLot.mintedShares
    (store.openLots.filter fun lot => decide (now < lot.lockExpiresAt))
  let pendingRedemptionShares := total VaultRedemptionRequest.requestedShares store.openRequests
  { vaultId := record.id
    baseAsset := record.baseAsset
    lockPeriodMonths := record.lockPeriodMonths
    navPerShare := formatDecimal store.navPerShare
    totalAssetsUsd := formatMoney store.totalAssetsUsd
    availableLiquidityUsd :=
      formatMoney ((store.portfolio.map fun portfolio => portfolio.liquidityReserve).getD 0)
    totalSharesOutstanding := formatDecimal store.totalSharesOutstanding
    totalDepositors := store.depositors.length
    activeDepositLots := store.openLots.length
    lockedShares := formatDecimal lockedShares
    unlockedShares := formatDecimal (max (store.totalSharesOutstanding.minus lockedShares) 0)
    pendingRedemptionShares := formatDecimal pendingRedemptionShares }

def effectiveSharePrice (navPerShare : Decimal) : Decimal := if 0 < navPerShare then navPerShare else 1

/-! ## Deposits -/

def depositorByWallet (walletAddress : String) : Option VaultDepositor :=
  store.depositors.find? fun row => decide (row.walletAddress = walletAddress)

/-- The depositor of the wallet is created, or gets the given names. -/
def upsertDepositor (input : RecordVaultDepositInput) : VaultDepositor × VaultStore :=
  match store.depositorByWallet input.walletAddress with
  | none =>
    let depositor : VaultDepositor :=
      { id := toString store.nextId
        investorId := input.investorId
        displayName := input.displayName
        walletAddress := input.walletAddress
        status := "active" }
    (depositor,
      { store with depositors := store.depositors ++ [depositor], nextId := store.nextId + 1 })
  | some existing =>
    let updated (row : VaultDepositor) : VaultDepositor :=
      { row with
        investorId := input.investorId, displayName := input.displayName, status := "active" }
    (updated existing,
      { store with
        depositors := store.depositors.map fun row =>
          if row.id = existing.id then updated row else row })

/-- The lot that a deposit of `amount` mints. -/
def newLot (record : VaultRecord) (depositorId : String) (input : RecordVaultDepositInput)
    (amount sharePrice : Decimal) (depositedAt : Date) (id : String) : VaultDepositLot where
  id := id
  vaultId := record.id
  depositorId := depositorId
  asset := record.baseAsset
  depositedAmount := formatMoney amount
  mintedShares := formatDecimal (amount.div sharePrice)
  sharePrice := formatDecimal sharePrice
  depositedAt := depositedAt
  lockExpiresAt := addMonths depositedAt record.lockPeriodMonths
  redeemedAt := none
  status := .active
  note := input.note

def recordVaultDeposit (input : RecordVaultDepositInput) (now : Date) :
    Except String VaultDepositLot × VaultStore :=
  match readTimestamp input.depositedAt now
      "Vault deposit requires a valid depositedAt timestamp when provided." with
  | .error message => (.error message, store)
  | .ok depositedAt =>
    match input.amountUsdc.positive "Vault deposit amount must be greater than zero." with
    | .error message => (.error message, store)
    | .ok amount =>
      let (record, ensured) := store.ensureVaultCurrentRecord config
      let sharePrice := effectiveSharePrice (ensured.getVaultSummary config now).navPerShare
      let (depositor, registered) := ensured.upsertDepositor input
      let lot := newLot record depositor.id input amount sharePrice depositedAt
        (toString registered.nextId)
      (.ok lot,
        { registered with lots := registered.lots ++ [lot], nextId := registered.nextId + 1 })

/-! ### What a deposit does -/

/-- The price that the next deposit is minted at and the next request is estimated at. -/
def sharePrice : Decimal := effectiveSharePrice (formatDecimal store.navPerShare)

theorem sharePrice_pos : 0 < store.sharePrice := by
  rw [sharePrice, effectiveSharePrice]
  split_ifs with h
  · exact h
  · norm_num

/-- The input is not refused: it names a positive amount and a time. -/
structure Accepted (input : RecordVaultDepositInput) (now : Date) (amount : Decimal)
    (t : Date) : Prop where
  amountUsdc : input.amountUsdc = .finite amount
  positive : 0 < amount
  depositedAt : input.depositedAt.getD (some now) = some t

/-- The depositor that the store finds for a wallet or creates for it. -/
def depositorIdFor (walletAddress : String) : String :=
  match store.depositorByWallet walletAddress with
  | none => toString store.nextId
  | some depositor => depositor.id

/-- An accepted deposit appends a lot; the requests and the projection stay. -/
structure Deposited (input : RecordVaultDepositInput) (amount : Decimal) (t : Date)
    (lot : VaultDepositLot) (after : VaultStore) : Prop where
  depositorId : lot.depositorId = store.depositorIdFor input.walletAddress
  depositedAmount : lot.depositedAmount = formatMoney amount
  mintedShares : lot.mintedShares = formatDecimal (amount.div store.sharePrice)
  sharePrice : lot.sharePrice = formatDecimal store.sharePrice
  depositedAt : lot.depositedAt = t
  lockExpiresAt : lot.lockExpiresAt = addMonths t config.lockPeriodMonths
  status : lot.status = .active
  id : ∃ n, store.nextId ≤ n ∧ lot.id = toString n ∧ after.nextId = n + 1
  lots : after.lots = store.lots ++ [lot]
  requests : after.requests = store.requests
  portfolio : after.portfolio = store.portfolio
  depositors : ∀ depositor ∈ after.depositors,
    depositor.id = lot.depositorId ∨ depositor.id ∈ store.depositors.map VaultDepositor.id

theorem readTimestamp_ok_iff (timestamp : OptionalTimestamp) (now : Date) (message : String)
    (t : Date) : readTimestamp timestamp now message = .ok t ↔ timestamp.getD (some now) = some t := by
  rcases timestamp with _ | _ | t' <;> simp [readTimestamp]

theorem positive_ok_iff (text : AmountText) (message : String)
    (x : Decimal) : text.positive message = .ok x ↔ text = .finite x ∧ 0 < x := by
  cases text with
  | finite y =>
    by_cases hy : y ≤ 0
    · simp only [AmountText.positive, if_pos hy, AmountText.finite.injEq]
      grind
    · simp only [AmountText.positive, if_neg hy, AmountText.finite.injEq, Except.ok.injEq]
      grind
  | notFinite | malformed => simp [AmountText.positive]

theorem upsertDepositor_spec (input : RecordVaultDepositInput) :
    (store.upsertDepositor input).1.id = store.depositorIdFor input.walletAddress ∧
      (store.upsertDepositor input).2.lots = store.lots ∧
      (store.upsertDepositor input).2.requests = store.requests ∧
      (store.upsertDepositor input).2.portfolio = store.portfolio ∧
      store.nextId ≤ (store.upsertDepositor input).2.nextId ∧
      ∀ depositor ∈ (store.upsertDepositor input).2.depositors,
        depositor.id = store.depositorIdFor input.walletAddress ∨
          depositor.id ∈ store.depositors.map VaultDepositor.id := by
  unfold upsertDepositor depositorIdFor
  cases store.depositorByWallet input.walletAddress with
  | none =>
    refine ⟨rfl, rfl, rfl, rfl, Nat.le_succ _, ?_⟩
    intro depositor hd
    rcases List.mem_append.1 hd with hd | hd
    · exact Or.inr (List.mem_map_of_mem hd)
    · exact Or.inl (by rw [List.mem_singleton.1 hd])
  | some existing =>
    refine ⟨rfl, rfl, rfl, rfl, le_rfl, ?_⟩
    intro depositor hd
    obtain ⟨row, hrow, rfl⟩ := List.mem_map.1 hd
    refine Or.inr (List.mem_map.2 ⟨row, hrow, ?_⟩)
    dsimp only
    split_ifs <;> rfl

theorem recordVaultDeposit_cases (input : RecordVaultDepositInput) (now : Date) :
    (∃ message, store.recordVaultDeposit config input now = (.error message, store)) ∨
      ∃ amount depositedAt lot after, store.recordVaultDeposit config input now = (.ok lot, after) ∧
        Accepted input now amount depositedAt ∧
        store.Deposited config input amount depositedAt lot after := by
  unfold recordVaultDeposit
  cases ht : readTimestamp input.depositedAt now
      "Vault deposit requires a valid depositedAt timestamp when provided." with
  | error message => exact Or.inl ⟨message, rfl⟩
  | ok depositedAt =>
    cases ha : input.amountUsdc.positive "Vault deposit amount must be greater than zero." with
    | error message => exact Or.inl ⟨message, rfl⟩
    | ok amount =>
      obtain ⟨hfinite, hpos⟩ := (positive_ok_iff _ _ _).1 ha
      obtain ⟨hid, hlots, hrequests, hportfolio, hnext, hdepositors⟩ :=
        (store.ensureVaultCurrentRecord config).2.upsertDepositor_spec input
      refine Or.inr ⟨amount, depositedAt, _, _, rfl,
        ⟨hfinite, hpos, (readTimestamp_ok_iff _ _ _ _).1 ht⟩, ?_⟩
      exact
        { depositorId := hid
          depositedAmount := rfl
          mintedShares := rfl
          sharePrice := rfl
          depositedAt := rfl
          lockExpiresAt := rfl
          status := rfl
          id := ⟨_, hnext, rfl, rfl⟩
          lots := congrArg (· ++ [_]) hlots
          requests := hrequests
          portfolio := hportfolio
          depositors := by
            intro depositor hd
            exact (hdepositors depositor hd).imp_left fun h => h.trans hid.symm }

variable {config store} in
theorem Deposited.openLots {input : RecordVaultDepositInput} {amount : Decimal} {t : Date}
    {lot : VaultDepositLot} {after : VaultStore}
    (hd : store.Deposited config input amount t lot after) :
    after.openLots = store.openLots ++ [lot] := by
  have hopen : lot.isOpen = true := by simp [VaultDepositLot.isOpen, hd.status]
  rw [VaultStore.openLots, hd.lots, List.filter_append, List.filter_singleton, hopen]
  rfl

/-! ## Redemption requests -/

/-- A lot and the shares of it that are not reserved. -/
abbrev LotAvailability := VaultDepositLot × Decimal

/-- The loop of `reserveShares`: what is left of the lots and of the shares to reserve. -/
def reserveLoop : List LotAvailability → Decimal → List LotAvailability × Decimal
  | [], remaining => ([], remaining)
  | (lot, available) :: rest, remaining =>
    if remaining ≤ 0 then ((lot, available) :: rest, remaining)
    else if available ≤ 0 then
      let (reserved, remaining) := reserveLoop rest remaining
      ((lot, available) :: reserved, remaining)
    else
      let taken := min available remaining
      let (reserved, remaining) := reserveLoop rest (remaining.minus taken)
      ((lot, available.minus taken) :: reserved, remaining)

def exceedsMessage : String := "Requested redemption exceeds available depositor shares."

def reserveShares (lots : List LotAvailability) (shares : Decimal) :
    Except String (List LotAvailability) :=
  let (reserved, remaining) := reserveLoop lots shares
  if 0 < remaining then .error exceedsMessage else .ok reserved

def reserveRequests (lots : List LotAvailability) (requests : List VaultRedemptionRequest) :
    Except String (List LotAvailability) :=
  requests.foldlM (fun lots request => reserveShares lots request.requestedShares) lots

/-- The loop over the lots that a request draws from: the allocations, the time from which all of
them are unlocked, and the shares that the lots do not cover. -/
def allocateLoop (requestedAt : Date) :
    List LotAvailability → Decimal → Date → List VaultAllocation × Date × Decimal
  | [], remaining, eligibleAt => ([], eligibleAt, remaining)
  | (lot, available) :: rest, remaining, eligibleAt =>
    if remaining ≤ 0 then ([], eligibleAt, remaining)
    else if available ≤ 0 then allocateLoop requestedAt rest remaining eligibleAt
    else
      let taken := min available remaining
      let lotEligibleAt := if requestedAt < lot.lockExpiresAt then lot.lockExpiresAt else requestedAt
      let (allocations, latest, remaining) := allocateLoop requestedAt rest (remaining.minus taken)
        (if eligibleAt < lotEligibleAt then lotEligibleAt else eligibleAt)
      (⟨lot.id, formatDecimal taken, lotEligibleAt⟩ :: allocations, latest, remaining)

def planRedemption (lots : List VaultDepositLot) (requests : List VaultRedemptionRequest)
    (requestedShares : Decimal) (requestedAt : Date) :
    Except String (List VaultAllocation × Date) := do
  let available ← reserveRequests (lots.map fun lot => (lot, lot.mintedShares)) requests
  let (allocations, eligibleAt, remaining) :=
    allocateLoop requestedAt available requestedShares requestedAt
  if 0 < remaining then .error exceedsMessage else .ok (allocations, eligibleAt)

/-- The columns that the insertion of a request gives. -/
structure NewRequest where
  vaultId : String
  depositorId : String
  requestedShares : Decimal
  estimatedAssets : Decimal
  sharePrice : Decimal
  requestedAt : Date
  eligibleAt : Date
  status : VaultRedemptionRequestStatus
  note : Option String
  allocations : List VaultAllocation

def NewRequest.toRow (new : NewRequest) (id : String) : VaultRedemptionRequest where
  id := id
  vaultId := new.vaultId
  depositorId := new.depositorId
  requestedShares := new.requestedShares
  estimatedAssets := new.estimatedAssets
  sharePrice := new.sharePrice
  requestedAt := new.requestedAt
  eligibleAt := new.eligibleAt
  fulfilledAt := none
  status := new.status
  note := new.note
  allocations := new.allocations

/-- `ORDER BY lock_expires_at, deposited_at`; equal rows stay in the order of the table. -/
def lotBefore (a b : VaultDepositLot) : Bool :=
  decide (a.lockExpiresAt < b.lockExpiresAt ∨
    (a.lockExpiresAt = b.lockExpiresAt ∧ a.depositedAt ≤ b.depositedAt))

/-- The open lots of a depositor in the order in which they are drawn on. -/
def lotsOf (depositorId : String) : List VaultDepositLot :=
  (store.openLots.filter fun lot => decide (lot.depositorId = depositorId)).insertionSort
    fun a b => lotBefore a b = true

/-- The open requests of a depositor, the oldest first. -/
def requestsOf (depositorId : String) : List VaultRedemptionRequest :=
  (store.openRequests.filter fun request => decide (request.depositorId = depositorId)).insertionSort
    fun a b => a.requestedAt ≤ b.requestedAt

def insertRequest (new : NewRequest) : VaultRedemptionRequest × VaultStore :=
  let row := new.toRow (toString store.nextId)
  (row, { store with requests := store.requests ++ [row], nextId := store.nextId + 1 })

end VaultStore

open VaultStore

/-- The statements that a redemption awaits. -/
inductive VaultCall where
  | ensureVaultCurrentRecord
  | selectDepositor (walletAddress : String)
  | selectLots (depositorId : String)
  | selectRequests (depositorId : String)
  | getVaultSummary (now : Date)
  | insertRequest (new : NewRequest)
  | touchVault

abbrev VaultCall.Reply : VaultCall → Type
  | .ensureVaultCurrentRecord => VaultRecord
  | .selectDepositor _ => Option VaultDepositor
  | .selectLots _ => List VaultDepositLot
  | .selectRequests _ => List VaultRedemptionRequest
  | .getVaultSummary _ => Summary
  | .insertRequest _ => VaultRedemptionRequest
  | .touchVault => Unit

abbrev VaultTask (α : Type) := Task VaultCall VaultCall.Reply String α

abbrev vaultCall (c : VaultCall) : VaultTask c.Reply := Task.call c

/-- Each statement is atomic and answers. -/
def handleVault (config : VaultConfig) : Handler VaultCall VaultCall.Reply String VaultStore :=
  fun c store =>
    match c with
    | .ensureVaultCurrentRecord =>
      let answer := store.ensureVaultCurrentRecord config
      (.ok answer.1, answer.2)
    | .selectDepositor walletAddress => (.ok (store.depositorByWallet walletAddress), store)
    | .selectLots depositorId => (.ok (store.lotsOf depositorId), store)
    | .selectRequests depositorId => (.ok (store.requestsOf depositorId), store)
    | .getVaultSummary now => (.ok (store.getVaultSummary config now), store)
    | .insertRequest new =>
      let answer := store.insertRequest new
      (.ok answer.1, answer.2)
    | .touchVault => (.ok (), store)

namespace VaultStore

def newRequest (record : VaultRecord) (depositorId : String) (input : RequestVaultRedemptionInput)
    (requestedShares navPerShare : Decimal) (requestedAt : Date)
    (plan : List VaultAllocation × Date) : NewRequest where
  vaultId := record.id
  depositorId := depositorId
  requestedShares := formatDecimal requestedShares
  estimatedAssets := formatMoney (requestedShares.times (effectiveSharePrice navPerShare))
  sharePrice := formatDecimal (effectiveSharePrice navPerShare)
  requestedAt := requestedAt
  eligibleAt := plan.2
  status := if requestedAt < plan.2 then .pendingLock else .queued
  note := input.note
  allocations := plan.1

/-- The insertion and what follows it. -/
def insertRedemption (new : NewRequest) : VaultTask VaultRedemptionRequest := do
  let row ← vaultCall (.insertRequest new)
  vaultCall .touchVault
  return row

/-- The part that follows the checks of the input. The lots, the requests and the summary are read
concurrently; they are read in this order here. -/
def redeem (input : RequestVaultRedemptionInput) (requestedShares : Decimal) (requestedAt now : Date) :
    VaultTask VaultRedemptionRequest := do
  let record ← vaultCall .ensureVaultCurrentRecord
  let depositor ← vaultCall (.selectDepositor input.walletAddress)
  match depositor with
  | none => .fail s!"Vault depositor '{input.walletAddress}' was not found."
  | some depositor =>
    let lots ← vaultCall (.selectLots depositor.id)
    let requests ← vaultCall (.selectRequests depositor.id)
    let summary ← vaultCall (.getVaultSummary now)
    match planRedemption lots requests requestedShares requestedAt with
    | .error message => .fail message
    | .ok plan =>
      insertRedemption (newRequest record depositor.id input requestedShares summary.navPerShare
        requestedAt plan)

def requestVaultRedemption (input : RequestVaultRedemptionInput) (now : Date) :
    VaultTask VaultRedemptionRequest :=
  match readTimestamp input.requestedAt now
      "Vault redemption requires a valid requestedAt timestamp when provided." with
  | .error message => .fail message
  | .ok requestedAt =>
    match input.requestedShares.positive "Vault redemption shares must be greater than zero." with
    | .error message => .fail message
    | .ok requestedShares => redeem input requestedShares requestedAt now

end VaultStore

end SentinelApex
